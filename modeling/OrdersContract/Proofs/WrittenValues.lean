import OrdersContract.Proofs.OrderedMembers
import OrdersContract.Proofs.WrittenTokens

/-!
A value without floating-point numbers is read from its text as it was written, except that the
members of its objects come in order of their keys. Between the elements of the text white space may
stand, so this holds of the compact text and of the indented one.
-/

set_option autoImplicit false

namespace OrdersContract.Json

open Text

namespace Value

/-- All numbers in a value are integers, and at most `depth` arrays and objects are nested. -/
inductive ExactWithin : Nat → Value → Prop
  | null (depth : Nat) : ExactWithin depth .null
  | bool (depth : Nat) (b : Bool) : ExactWithin depth (.bool b)
  | number (depth : Nat) (n : Integer) : ExactWithin depth (.number (.integer n))
  | string (depth : Nat) (s : String) : ExactWithin depth (.string s)
  | array {depth : Nat} {items : List Value} (each : ∀ item ∈ items, ExactWithin depth item) :
    ExactWithin (depth + 1) (.array items)
  | object {depth : Nat} {members : List (String × Value)}
    (each : ∀ member ∈ members, ExactWithin depth member.2) :
    ExactWithin (depth + 1) (.object members)

end Value

def Blank (chars : List Char) : Prop := ∀ c ∈ chars, isSpace (.char c) = true

/-- A reader takes a text for a value and leaves what follows, with white space in front or not. -/
structure Reader.Takes (reader : Reader) (text : List Char) (value : Value) : Prop where
  opens : ∃ c others, text = c :: others ∧ isSpace (.char c) = false ∧ c ≠ ']'
  read : ∀ blank rest, Blank blank → EndsNumber rest →
    reader.read (blank.map .char ++ (text.map .char ++ rest)) = .ok (value, rest)

theorem Reader.takes_of_readValue {element : Option Reader} {text : List Char} {value : Value}
    (opens : ∃ c others, text = c :: others ∧ isSpace (.char c) = false ∧ c ≠ ']')
    (read : ∀ rest, EndsNumber rest → readValue element (text.map .char ++ rest) = .ok (value, rest)) :
    (Reader.ofElement element).Takes text value := by
  refine ⟨opens, fun blank rest spaces ends => ?_⟩
  have bare := read rest ends
  change readValue element _ = _
  rw [readValue] at bare ⊢
  rwa [skipSpace_append spaces]

theorem ne_of_isDigit {c : Char} (digit : isDigit c = true) {marks : List Char}
    (others : marks.any isDigit = false) : ∀ mark ∈ marks, c ≠ mark := by
  intro mark listed same
  rw [List.any_eq_false] at others
  exact others mark listed (same ▸ digit)

theorem isDigit_solid {c : Char} (digit : isDigit c = true) :
    isSpace (.char c) = false ∧ c ≠ ']' := by
  have marks : ∀ mark ∈ [' ', '\n', '\t', '\r', ']'], c ≠ mark :=
    ne_of_isDigit digit (by decide)
  simp only [List.forall_mem_cons] at marks
  simp [isSpace, marks]

section Scalars

variable (element : Option Reader)

theorem takes_word {c : Char} {word : List Char} {value : Value}
    (solid : isSpace (.char c) = false ∧ c ≠ ']')
    (step : ∀ input, readValue element (.char c :: input) = (readWord word input).map (value, ·)) :
    (Reader.ofElement element).Takes (c :: word) value := by
  refine Reader.takes_of_readValue ⟨c, word, rfl, solid⟩ fun rest _ => ?_
  rw [List.map_cons, List.cons_append, step, readWord_append]
  rfl

theorem takes_null : (Reader.ofElement element).Takes nullChars .null := by
  apply takes_word element (by decide)
  intro input
  rw [readValue, skipSpace_cons rfl]
  rfl

theorem takes_bool (b : Bool) : (Reader.ofElement element).Takes (boolChars b) (.bool b) := by
  cases b
  all_goals
    apply takes_word element (by decide)
    intro input
    rw [readValue, skipSpace_cons rfl]
    rfl

theorem takes_string (s : String) : (Reader.ofElement element).Takes (quotedChars s) (.string s) := by
  refine Reader.takes_of_readValue ⟨'"', _, rfl, rfl, by decide⟩ fun rest _ => ?_
  have step (input : Input) : readValue element (.char '"' :: input) =
      (readString none [] input).map fun result => (.string result.1, result.2) := by
    rw [readValue, skipSpace_cons rfl]
    rfl
  exact (step _).trans (congrArg _ (readString_written s rest))

theorem readValue_digit {c : Char} (digit : isDigit c = true) (input : Input) :
    readValue element (.char c :: input) =
      (readNumber false (.char c :: input)).map fun (n, rest) => (.number n, rest) := by
  have marks : ∀ mark ∈ ['n', 't', 'f', '-', '"', '[', '\x7b'], c ≠ mark :=
    ne_of_isDigit digit (by decide)
  simp only [List.forall_mem_cons] at marks
  rw [readValue, skipSpace_cons (isDigit_solid digit).1]
  split <;> simp_all

theorem takes_integer (n : Integer) :
    (Reader.ofElement element).Takes n.chars (.number (.integer n)) := by
  have small : n.val.natAbs < 0x10000000000000000 := by
    have lower := n.lower
    have upper := n.upper
    omega
  have finished := finishInteger_natAbs n
  by_cases negative : n.val < 0
  next =>
    rw [Integer.chars, if_pos negative]
    refine Reader.takes_of_readValue ⟨'-', _, rfl, rfl, by decide⟩ fun rest ends => ?_
    have step (input : Input) : readValue element (.char '-' :: input) =
        (readNumber true input).map fun result => (.number result.1, result.2) := by
      rw [readValue, skipSpace_cons rfl]
      rfl
    rw [decide_eq_true negative] at finished
    have digits := (readNumber_decimal true small ends).trans (finished rest)
    exact (step _).trans (congrArg _ digits)
  next =>
    rw [Integer.chars, if_neg negative]
    rw [decide_eq_false negative] at finished
    cases digits : decimal n.val.natAbs with
    | nil => exact absurd digits (decimal_ne_nil _)
    | cons c others =>
      have digit : isDigit c = true := isDigit_of_mem_decimal (digits ▸ List.mem_cons_self)
      refine Reader.takes_of_readValue ⟨c, _, rfl, isDigit_solid digit⟩ fun rest ends => ?_
      have number := (readNumber_decimal false small ends).trans (finished rest)
      rw [digits] at number
      exact (readValue_digit element digit _).trans (congrArg _ number)

end Scalars

theorem not_extendsNumber_of_isSpace {c : Char} (space : isSpace (.char c) = true) :
    extendsNumber (.char c) = false := by
  have among : ((c = ' ' ∨ c = '\n') ∨ c = '\t') ∨ c = '\r' := by simpa [isSpace] using space
  rcases among with ((rfl | rfl) | rfl) | rfl <;> decide

theorem endsNumber_blank {blank : List Char} (spaces : Blank blank) {rest : Input}
    (ends : EndsNumber rest) : EndsNumber (blank.map .char ++ rest) := by
  cases blank with
  | nil => exact ends
  | cons c blank =>
    exact endsNumber_cons (not_extendsNumber_of_isSpace (spaces c List.mem_cons_self)) _

def enclosed (blank last : List Char) (closing : Char) (texts : List (List Char)) : List Char :=
  blank ++ separated (',' :: blank) texts ++ last ++ [closing]

def elementsBehind (blank last : List Char) (closing : Char) (texts : List (List Char)) :
    List Char :=
  texts.flatMap (fun text => ',' :: (blank ++ text)) ++ (last ++ [closing])

theorem Reader.Takes.skipSpace_eq {reader : Reader} {text : List Char} {value : Value}
    (takes : reader.Takes text value) {blank : List Char} (spaces : Blank blank) (rest : Input) :
    ∃ c others, skipSpace (blank.map .char ++ (text.map .char ++ rest)) = .char c :: others ∧
      c ≠ ']' := by
  obtain ⟨c, others, rfl, solid, other⟩ := takes.opens
  refine ⟨c, others.map .char ++ rest, ?_, other⟩
  rw [skipSpace_append spaces]
  exact skipSpace_cons solid _

section Nested

variable {element : Reader} {blank last : List Char} {closing : Char} {texts : List (List Char)}

theorem elementsBehind_cons (text : List Char) (rest : Input) :
    (elementsBehind blank last closing (text :: texts)).map .char ++ rest =
      .char ',' :: (blank.map .char ++ (text.map .char ++
        ((elementsBehind blank last closing texts).map .char ++ rest))) := by
  simp [elementsBehind]

theorem endsNumber_elementsBehind (behind : Blank last)
    (closes : extendsNumber (.char closing) = false) (rest : Input) :
    EndsNumber ((elementsBehind blank last closing texts).map .char ++ rest) := by
  cases texts with
  | cons text texts => exact endsNumber_cons rfl _
  | nil =>
    rw [elementsBehind, List.flatMap_nil, List.nil_append, List.map_append, List.append_assoc]
    exact endsNumber_blank behind (endsNumber_cons closes _)

theorem skipSpace_elementsBehind_nil (behind : Blank last) (solid : isSpace (.char closing) = false)
    (rest : Input) :
    skipSpace ((elementsBehind blank last closing []).map .char ++ rest) =
      .char closing :: rest := by
  rw [elementsBehind, List.flatMap_nil, List.nil_append, List.map_append, List.append_assoc,
    skipSpace_append behind]
  exact skipSpace_cons solid rest

theorem skipSpace_enclosed_nil (between : Blank blank) (behind : Blank last)
    (solid : isSpace (.char closing) = false) (rest : Input) :
    skipSpace ((enclosed blank last closing []).map .char ++ rest) =
      .char closing :: rest := by
  have open_elements : enclosed blank last closing [] =
      blank ++ elementsBehind blank last closing [] := by
    simp [enclosed, separated, elementsBehind]
  rw [open_elements, List.map_append, List.append_assoc, skipSpace_append between,
    skipSpace_elementsBehind_nil behind solid]

theorem enclosed_cons (text : List Char) (rest : Input) :
    (enclosed blank last closing (text :: texts)).map .char ++ rest =
      blank.map .char ++ (text.map .char ++
        ((elementsBehind blank last closing texts).map .char ++ rest)) := by
  simp [enclosed, separated, elementsBehind]

theorem readItems_end {done : List Value} {input rest : Input}
    (ended : skipSpace input = .char ']' :: rest) :
    readItems element done input = .ok (done.reverse, rest) := by
  rw [readItems]
  split <;> simp_all

theorem readItems_comma {c : Char} {done : List Value} {value : Value} {input others rest : Input}
    (opens : skipSpace input = .char c :: others) (other : c ≠ ']')
    (read : element.read input = .ok (value, rest)) :
    readItems element done (.char ',' :: input) = readItems element (value :: done) rest := by
  have comma : skipSpace (.char ',' :: input) = .char ',' :: input := skipSpace_cons rfl input
  rw [readItems]
  split
  next none => simp [comma] at none
  next closed => simp [comma] at closed
  next behind same =>
    obtain rfl : input = behind := by simpa [comma] using same
    split
    next none => simp [opens] at none
    next closed =>
      rw [opens, List.cons.injEq, Symbol.char.injEq] at closed
      exact absurd closed.1 other
    next =>
      split
      next failed => simp [read] at failed
      next found => simp_all
  next unlike => exact absurd comma (unlike input)

theorem readItems_next {text : List Char} {value : Value} (takes : element.Takes text value)
    (between : Blank blank) {rest : Input} (ends : EndsNumber rest) (done : List Value) :
    readItems element done (.char ',' :: (blank.map .char ++ (text.map .char ++ rest))) =
      readItems element (value :: done) rest := by
  obtain ⟨c, others, opens, other⟩ := takes.skipSpace_eq between rest
  exact readItems_comma opens other (takes.read blank rest between ends)

theorem readItems_written (between : Blank blank) (behind : Blank last) {text : Value → List Char}
    {items : List Value} (each : ∀ item ∈ items, element.Takes (text item) item.ordered)
    (done : List Value) (rest : Input) :
    readItems element done ((elementsBehind blank last ']' (items.map text)).map .char ++ rest) =
      .ok (done.reverse ++ items.map Value.ordered, rest) := by
  induction items generalizing done with
  | nil => simpa using readItems_end (skipSpace_elementsBehind_nil behind rfl rest)
  | cons item items ih =>
    have own := each item List.mem_cons_self
    have others := ih fun item member => each item (List.mem_cons_of_mem _ member)
    rw [List.map_cons, elementsBehind_cons,
      readItems_next own between (endsNumber_elementsBehind behind rfl rest), others]
    simp

theorem readList_opens {c : Char} {value : Value} {input others rest : Input}
    (opens : skipSpace input = .char c :: others) (other : c ≠ ']')
    (read : element.read input = .ok (value, rest)) :
    readList element input =
      (readItems element [value] rest).map fun (items, rest) => (.array items, rest) := by
  rw [readList]
  split
  next none => simp [opens] at none
  next closed =>
    rw [opens, List.cons.injEq, Symbol.char.injEq] at closed
    exact absurd closed.1 other
  next => rw [read]

theorem readList_written (between : Blank blank) (behind : Blank last) {text : Value → List Char}
    {items : List Value} (each : ∀ item ∈ items, element.Takes (text item) item.ordered)
    (rest : Input) :
    readList element ((enclosed blank last ']' (items.map text)).map .char ++ rest) =
      .ok (.array (items.map Value.ordered), rest) := by
  cases items with
  | nil =>
    have closed := skipSpace_enclosed_nil between behind (by decide : isSpace (.char ']') = false) rest
    rw [List.map_nil, readList]
    split <;> simp_all
  | cons item items =>
    have own := each item List.mem_cons_self
    have others := readItems_written between behind
      (fun item member => each item (List.mem_cons_of_mem _ member)) [item.ordered] rest
    obtain ⟨c, tail, opens, other⟩ := own.skipSpace_eq between
      ((elementsBehind blank last ']' (items.map text)).map .char ++ rest)
    rw [List.map_cons, enclosed_cons, readList_opens opens other
      (own.read blank _ between (endsNumber_elementsBehind behind rfl rest)), others]
    rfl

def memberChars (gap : List Char) (key : String) (text : List Char) : List Char :=
  quotedChars key ++ ':' :: (gap ++ text)

theorem memberChars_append (gap : List Char) (key : String) (text : List Char) (rest : Input) :
    (memberChars gap key text).map .char ++ rest =
      .char '"' :: ((key.toList.flatMap escapedChar ++ ['"']).map .char ++
        (.char ':' :: (gap.map .char ++ (text.map .char ++ rest)))) := by
  simp [memberChars, quotedChars]

theorem readMember_written (key : String) {gap text : List Char} {value : Value}
    (takes : element.Takes text value) (spaces : Blank gap) {rest : Input} (ends : EndsNumber rest) :
    readMember element ((key.toList.flatMap escapedChar ++ ['"']).map .char ++
      (.char ':' :: (gap.map .char ++ (text.map .char ++ rest)))) = .ok ((key, value), rest) := by
  have colon (input : Input) : readMemberValue element (.char ':' :: input) = element.read input := by
    rw [readMemberValue, skipSpace_cons rfl]
    rfl
  rw [readMember, readString_written]
  simp only [colon, takes.read gap rest spaces ends]
  rfl

theorem readMembers_end {done : List (String × Value)} {input rest : Input}
    (ended : skipSpace input = .char '\x7d' :: rest) :
    readMembers element done input = .ok (done, rest) := by
  rw [readMembers]
  split <;> simp_all

theorem readMembers_comma {done : List (String × Value)} {key : String} {value : Value}
    {input inside rest : Input} (opens : skipSpace input = .char '"' :: inside)
    (read : readMember element inside = .ok ((key, value), rest)) :
    readMembers element done (.char ',' :: input) =
      readMembers element (setMember key value done) rest := by
  have comma : skipSpace (.char ',' :: input) = .char ',' :: input := skipSpace_cons rfl input
  rw [readMembers]
  split
  next none => simp [comma] at none
  next closed => simp [comma] at closed
  next behind same =>
    obtain rfl : input = behind := by simpa [comma] using same
    split
    next none => simp [opens] at none
    next quoted =>
      obtain rfl : inside = _ := by simpa [opens] using quoted
      split
      next failed => simp [read] at failed
      next found => simp_all
    next closed => simp [opens] at closed
    next unlike _ => exact absurd opens (unlike inside)
  next unlike => exact absurd comma (unlike input)

theorem readObject_opens {key : String} {value : Value} {input inside rest : Input}
    (opens : skipSpace input = .char '"' :: inside)
    (read : readMember element inside = .ok ((key, value), rest)) :
    readObject element input =
      (readMembers element [(key, value)] rest).map fun (members, rest) => (.object members, rest) := by
  rw [readObject]
  split
  next none => simp [opens] at none
  next closed => simp [opens] at closed
  next quoted =>
    obtain rfl : inside = _ := by simpa [opens] using quoted
    rw [read]
  next unlike => exact absurd opens (unlike inside)

theorem skipSpace_memberChars (between : Blank blank) (gap : List Char) (key : String)
    (text : List Char) (rest : Input) :
    skipSpace (blank.map .char ++ ((memberChars gap key text).map .char ++ rest)) =
      .char '"' :: ((key.toList.flatMap escapedChar ++ ['"']).map .char ++
        (.char ':' :: (gap.map .char ++ (text.map .char ++ rest)))) := by
  rw [skipSpace_append between, memberChars_append, skipSpace_cons rfl]

theorem readMembers_next (key : String) {gap text : List Char} {value : Value}
    (takes : element.Takes text value) (between : Blank blank) (spaces : Blank gap) {rest : Input}
    (ends : EndsNumber rest) (done : List (String × Value)) :
    readMembers element done
        (.char ',' :: (blank.map .char ++ ((memberChars gap key text).map .char ++ rest))) =
      readMembers element (setMember key value done) rest :=
  readMembers_comma (skipSpace_memberChars between gap key text rest)
    (readMember_written key takes spaces ends)

section Members

variable {gap : List Char} {text : Value → List Char} {members : List (String × Value)}

theorem readMembers_written (between : Blank blank) (behind : Blank last) (spaces : Blank gap)
    (each : ∀ member ∈ members, element.Takes (text member.2) member.2.ordered)
    (done : List (String × Value)) (rest : Input) :
    readMembers element done ((elementsBehind blank last '\x7d' (members.map fun member =>
        memberChars gap member.1 (text member.2))).map .char ++ rest) =
      .ok (members.foldl (fun done member => setMember member.1 member.2.ordered done) done,
        rest) := by
  induction members generalizing done with
  | nil => exact readMembers_end (skipSpace_elementsBehind_nil behind rfl rest)
  | cons member members ih =>
    have own := each member List.mem_cons_self
    have others := ih fun member listed => each member (List.mem_cons_of_mem _ listed)
    rw [List.map_cons, elementsBehind_cons, readMembers_next member.1 own between spaces
      (endsNumber_elementsBehind behind (by decide) rest), others]
    rfl

theorem readObject_written (between : Blank blank) (behind : Blank last) (spaces : Blank gap)
    (each : ∀ member ∈ members, element.Takes (text member.2) member.2.ordered) (rest : Input) :
    readObject element ((enclosed blank last '\x7d' (members.map fun member =>
        memberChars gap member.1 (text member.2))).map .char ++ rest) =
      .ok (.object (members.foldl (fun done member =>
        setMember member.1 member.2.ordered done) []), rest) := by
  cases members with
  | nil =>
    have closed := skipSpace_enclosed_nil between behind
      (by decide : isSpace (.char '\x7d') = false) rest
    rw [List.map_nil, readObject]
    split <;> simp_all
  | cons member members =>
    have own := each member List.mem_cons_self
    have others := readMembers_written between behind spaces
      (fun member listed => each member (List.mem_cons_of_mem _ listed))
      [(member.1, member.2.ordered)] rest
    rw [List.map_cons, enclosed_cons, readObject_opens (skipSpace_memberChars between gap _ _ _)
      (readMember_written member.1 own spaces
        (endsNumber_elementsBehind behind (by decide) rest)), others]
    rfl

end Members

end Nested

theorem Reader.takes_list {element : Reader} {text : List Char} {value : Value}
    (read : ∀ rest, readList element (text.map .char ++ rest) = .ok (value, rest)) :
    (Reader.ofElement (some element)).Takes ('[' :: text) value := by
  refine Reader.takes_of_readValue ⟨'[', _, rfl, rfl, by decide⟩ fun rest _ => ?_
  rw [List.map_cons, List.cons_append, readValue, skipSpace_cons rfl]
  exact read rest

theorem Reader.takes_object {element : Reader} {text : List Char} {value : Value}
    (read : ∀ rest, readObject element (text.map .char ++ rest) = .ok (value, rest)) :
    (Reader.ofElement (some element)).Takes ('\x7b' :: text) value := by
  refine Reader.takes_of_readValue ⟨'\x7b', _, rfl, rfl, by decide⟩ fun rest _ => ?_
  rw [List.map_cons, List.cons_append, readValue, skipSpace_cons rfl]
  exact read rest

theorem Reader.takes_ofDepth {text : List Char} {value : Value}
    (takes : ∀ element, (Reader.ofElement element).Takes text value) (depth : Nat) :
    (Reader.ofDepth depth).Takes text value := by
  cases depth <;> exact takes _

theorem blank_lineBreak (level : Nat) : Blank (Value.lineBreak level) := by
  intro c listed
  rw [Value.lineBreak, List.mem_cons, List.mem_replicate] at listed
  cases listed with
  | inl feed => exact feed ▸ rfl
  | inr space => exact space.2 ▸ rfl

theorem block_eq_enclosed (opening closing : Char) (level : Nat) (elements : List (List Char)) :
    ∃ blank last, Blank blank ∧ Blank last ∧
      Value.block opening closing level elements = opening :: enclosed blank last closing elements := by
  cases elements with
  | nil => exact ⟨[], [], by simp [Blank], by simp [Blank], rfl⟩
  | cons element elements =>
    refine ⟨_, _, blank_lineBreak (level + 1), blank_lineBreak level, ?_⟩
    simp [Value.block, enclosed]

theorem indentedMembers_eq (level : Nat) (members : List (String × Value)) :
    Value.indentedMembers level members =
      members.map fun member => memberChars [' '] member.1 (member.2.indented level) := by
  rw [Value.indentedMembers_eq_map]
  exact List.map_congr_left fun member _ => by cases member; rfl

/-- How values are written, at each level of nesting: white space may stand between the elements of
arrays and objects, and after the colon of a member. -/
structure Value.Layout (write : Nat → Value → List Char) : Prop where
  null (level : Nat) : write level .null = nullChars
  bool (level : Nat) (b : Bool) : write level (.bool b) = boolChars b
  number (level : Nat) (n : Numeric) : write level (.number n) = n.chars
  string (level : Nat) (s : String) : write level (.string s) = quotedChars s
  array (level : Nat) (items : List Value) : ∃ blank last, Blank blank ∧ Blank last ∧
    write level (.array items) = '[' :: enclosed blank last ']' (items.map (write (level + 1)))
  object (level : Nat) (members : List (String × Value)) : ∃ blank last gap,
    Blank blank ∧ Blank last ∧ Blank gap ∧
      write level (.object members) = '\x7b' :: enclosed blank last '\x7d'
        (members.map fun member => memberChars gap member.1 (write (level + 1) member.2))

theorem Value.Layout.takes {write : Nat → Value → List Char} (layout : Value.Layout write)
    {value : Value} {depth : Nat} (exact : value.ExactWithin depth) (level : Nat) :
    (Reader.ofDepth depth).Takes (write level value) value.ordered := by
  induction exact generalizing level with
  | null depth =>
    rw [layout.null]
    exact Reader.takes_ofDepth takes_null depth
  | bool depth b =>
    rw [layout.bool]
    exact Reader.takes_ofDepth (fun element => takes_bool element b) depth
  | number depth n =>
    rw [layout.number]
    exact Reader.takes_ofDepth (fun element => takes_integer element n) depth
  | string depth s =>
    rw [layout.string]
    exact Reader.takes_ofDepth (fun element => takes_string element s) depth
  | @array depth items _ ih =>
    obtain ⟨blank, last, between, behind, written⟩ := layout.array level items
    rw [written, ordered_array]
    exact Reader.takes_list (readList_written between behind fun item listed =>
      ih item listed (level + 1))
  | @object depth members _ ih =>
    obtain ⟨blank, last, gap, between, behind, spaces, written⟩ := layout.object level members
    rw [written, Value.ordered, orderedMembers_eq_map, sortedMembers, List.foldl_map]
    exact Reader.takes_object (readObject_written between behind spaces fun member listed =>
      ih member listed (level + 1))

theorem Value.indented_layout : Value.Layout Value.indented := by
  constructor
  case null => exact fun _ => rfl
  case bool => exact fun _ _ => rfl
  case number => exact fun _ _ => rfl
  case string => exact fun _ _ => rfl
  case array =>
    intro level items
    rw [Value.indented, indentedItems_eq_map]
    exact block_eq_enclosed ..
  case object =>
    intro level members
    obtain ⟨blank, last, between, behind, written⟩ := block_eq_enclosed '\x7b' '\x7d' level
      (members.map fun member => memberChars [' '] member.1 (member.2.indented (level + 1)))
    refine ⟨blank, last, [' '], between, behind, by simp [Blank, isSpace], ?_⟩
    rw [Value.indented, indentedMembers_eq, written]

theorem Value.chars_layout : Value.Layout fun _ => Value.chars := by
  have nothing : Blank [] := by simp [Blank]
  constructor
  case null => exact fun _ => rfl
  case bool => exact fun _ _ => rfl
  case number => exact fun _ _ => rfl
  case string => exact fun _ _ => rfl
  case array =>
    intro _ items
    refine ⟨[], [], nothing, nothing, ?_⟩
    simp [Value.chars, charsOfItems_eq_map, enclosed]
  case object =>
    intro _ members
    refine ⟨[], [], [], nothing, nothing, nothing, ?_⟩
    simp [Value.chars, charsOfMembers_eq_map, enclosed, memberChars]

theorem parse_of_takes {text : List Char} {value : Value}
    (takes : (Reader.ofDepth depthLimit).Takes text value) {blank : List Char}
    (spaces : Blank blank) : parse (Utf8.encode (text ++ blank)) = .ok value := by
  have ends : EndsNumber (blank.map .char) := by
    have nothing : EndsNumber [] := by simp [EndsNumber]
    simpa using endsNumber_blank spaces nothing
  have read := takes.read [] (blank.map .char) (by simp [Blank]) ends
  have skipped : skipSpace (blank.map .char) = [] := by
    simpa [skipSpace] using skipSpace_append spaces []
  rw [List.map_nil, List.nil_append] at read
  rw [parse, Utf8.decode_encode, List.map_append, readDocument, read]
  simp only [skipped]
  rfl

theorem Value.ExactWithin.parse_indented {value : Value} (exact : value.ExactWithin depthLimit)
    {blank : List Char} (spaces : Blank blank) :
    parse (Utf8.encode (value.indented 0 ++ blank)) = .ok value.ordered :=
  parse_of_takes (Value.indented_layout.takes exact 0) spaces

theorem Value.ExactWithin.parse_text {value : Value} (exact : value.ExactWithin depthLimit) :
    parse (Utf8.encode value.text.toList) = .ok value.ordered := by
  have read := parse_of_takes (Value.chars_layout.takes exact 0) (show Blank [] by simp [Blank])
  rw [List.append_nil] at read
  rwa [text, String.toList_ofList]

end OrdersContract.Json
