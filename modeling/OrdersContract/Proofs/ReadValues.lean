import OrdersContract.Json.Read
import OrdersContract.Proofs.OrderedMembers

/-!
What holds of every value that is read. A property that passes from the parts of a value to the
whole is followed through the readers once, for all such properties.
-/

set_option autoImplicit false

namespace OrdersContract.Json

/-- Holds of the scalars that are read, and of an array or an object as soon as it holds of what is
in it. -/
structure Value.Inherited (holds : Value → Prop) : Prop where
  null : holds .null
  bool (b : Bool) : holds (.bool b)
  string (s : String) : holds (.string s)
  number {negative : Bool} {input rest : Input} {n : Numeric}
    (read : readNumber negative input = .ok (n, rest)) : holds (.number n)
  array {items : List Value} (each : ∀ item ∈ items, holds item) : holds (.array items)
  object {members : List (String × Value)} (keys : Ascending members)
    (each : ∀ member ∈ members, holds member.2) : holds (.object members)

theorem forall_mem_setMember {holds : Value → Prop} {key : String} {value : Value}
    {members : List (String × Value)} (own : holds value)
    (each : ∀ member ∈ members, holds member.2) :
    ∀ member ∈ setMember key value members, holds member.2 := by
  intro member listed
  rcases mem_setMember listed with rfl | before
  · exact own
  · exact each member before

def Reader.Gives (holds : Value → Prop) (reader : Reader) : Prop :=
  ∀ input value rest, reader.read input = .ok (value, rest) → holds value

theorem exists_of_map_ok {ε α β : Type} {reading : Except ε α} {made : α → β} {result : β}
    (read : reading.map made = .ok result) :
    ∃ parts, reading = .ok parts ∧ made parts = result := by
  cases reading with
  | error fault => simp [Except.map] at read
  | ok parts => exact ⟨parts, rfl, Except.ok.inj read⟩

section Elements

variable {holds : Value → Prop} {element : Reader} {input rest : Input} {value : Value}

theorem forall_mem_of_readItems (gives : element.Gives holds) {done items : List Value}
    (before : ∀ item ∈ done, holds item)
    (read : readItems element done input = .ok (items, rest)) : ∀ item ∈ items, holds item := by
  fun_induction readItems element done input with
  | case1 => simp [faultAt] at read
  | case2 =>
    obtain ⟨rfl, _⟩ := Prod.mk.inj (Except.ok.inj read)
    simpa using before
  | case3 => simp [faultAt] at read
  | case4 => simp [faultIn] at read
  | case5 => simp at read
  | case6 _ _ _ _ value _ found _ _ _ ih =>
    exact ih (List.forall_mem_cons.mpr ⟨gives _ _ _ found, before⟩) read
  | case7 => simp [faultIn] at read

theorem holds_of_readList (inherited : Value.Inherited holds) (gives : element.Gives holds)
    (read : readList element input = .ok (value, rest)) : holds value := by
  unfold readList at read
  split at read
  next => simp [faultAt] at read
  next =>
    obtain ⟨rfl, _⟩ := Prod.mk.inj (Except.ok.inj read)
    exact inherited.array (by simp)
  next =>
    split at read
    next => simp at read
    next first after found =>
      obtain ⟨⟨items, _⟩, listed, same⟩ := exists_of_map_ok read
      obtain ⟨rfl, _⟩ := Prod.mk.inj same
      have own := gives _ _ _ found
      exact inherited.array (forall_mem_of_readItems gives (by simpa using own) listed)

theorem holds_of_readMember (gives : element.Gives holds) {key : String}
    (read : readMember element input = .ok ((key, value), rest)) : holds value := by
  unfold readMember at read
  split at read
  next => simp at read
  next =>
    obtain ⟨⟨held, _⟩, found, same⟩ := exists_of_map_ok read
    obtain ⟨_, rfl⟩ := Prod.mk.inj (Prod.mk.inj same).1
    unfold readMemberValue at found
    split at found
    next => simp [faultAt] at found
    next => exact gives _ _ _ found
    next => simp [faultIn] at found

theorem forall_mem_of_readMembers (gives : element.Gives holds)
    {done members : List (String × Value)} (keys : Ascending done)
    (before : ∀ member ∈ done, holds member.2)
    (read : readMembers element done input = .ok (members, rest)) :
    Ascending members ∧ ∀ member ∈ members, holds member.2 := by
  fun_induction readMembers element done input with
  | case1 => simp [faultAt] at read
  | case2 =>
    obtain ⟨rfl, _⟩ := Prod.mk.inj (Except.ok.inj read)
    exact ⟨keys, before⟩
  | case3 => simp [faultAt] at read
  | case4 => simp at read
  | case5 _ _ _ _ _ _ name value _ found _ ih =>
    have own := holds_of_readMember gives found
    exact ih (keys.setMember name value) (forall_mem_setMember own before) read
  | case6 => simp [faultIn] at read
  | case7 => simp [faultIn] at read
  | case8 => simp [faultIn] at read

theorem holds_of_readObject (inherited : Value.Inherited holds) (gives : element.Gives holds)
    (read : readObject element input = .ok (value, rest)) : holds value := by
  unfold readObject at read
  split at read
  next => simp [faultAt] at read
  next =>
    obtain ⟨rfl, _⟩ := Prod.mk.inj (Except.ok.inj read)
    exact inherited.object .nil (by simp)
  next =>
    split at read
    next => simp at read
    next found =>
      obtain ⟨⟨members, _⟩, listed, same⟩ := exists_of_map_ok read
      obtain ⟨rfl, _⟩ := Prod.mk.inj same
      have first := holds_of_readMember gives found
      obtain ⟨keys, each⟩ := forall_mem_of_readMembers gives (List.pairwise_singleton _ _)
        (by simpa using first) listed
      exact inherited.object keys each
  next => simp [faultIn] at read

end Elements

section Readers

variable {holds : Value → Prop} (inherited : Value.Inherited holds)

include inherited

theorem holds_of_readValue {element : Option Reader}
    (gives : ∀ reader ∈ element, reader.Gives holds) {input rest : Input} {value : Value}
    (read : readValue element input = .ok (value, rest)) : holds value := by
  have leaf {α : Type} {reading : Except Fault α} {made : α → Value × Input}
      (mapped : reading.map made = .ok (value, rest))
      (each : ∀ parts, reading = .ok parts → holds (made parts).1) : holds value := by
    obtain ⟨parts, found, same⟩ := exists_of_map_ok mapped
    have own := each parts found
    rwa [same] at own
  unfold readValue at read
  split at read
  next => simp [faultAt] at read
  next => exact leaf read fun _ _ => inherited.null
  next => exact leaf read fun _ _ => inherited.bool true
  next => exact leaf read fun _ _ => inherited.bool false
  next => exact leaf read fun _ found => inherited.number found
  next => exact leaf read fun _ _ => inherited.string _
  next =>
    split at read
    next => simp [faultIn] at read
    next reader => exact holds_of_readList inherited (gives reader rfl) read
  next =>
    split at read
    next => simp [faultIn] at read
    next reader => exact holds_of_readObject inherited (gives reader rfl) read
  next =>
    split at read
    next => exact leaf read fun _ found => inherited.number found
    next => simp [faultIn] at read
  next => simp [faultIn] at read

theorem Reader.ofElement_gives {element : Option Reader}
    (gives : ∀ reader ∈ element, reader.Gives holds) : (Reader.ofElement element).Gives holds :=
  fun _ _ _ read => holds_of_readValue inherited gives read

theorem Reader.ofDepth_gives (depth : Nat) : (Reader.ofDepth depth).Gives holds := by
  induction depth with
  | zero => exact Reader.ofElement_gives inherited (by simp)
  | succ depth ih =>
    apply Reader.ofElement_gives inherited
    intro reader given
    rwa [← Option.some.inj given]

theorem holds_of_parse {bytes : List UInt8} {document : Value}
    (read : parse bytes = .ok document) : holds document := by
  unfold parse readDocument at read
  cases found : (Reader.ofDepth depthLimit).read (Text.Utf8.decode bytes) with
  | error fault =>
    simp only [found] at read
    cases read
  | ok parts =>
    obtain ⟨value, rest⟩ := parts
    simp only [found] at read
    split at read
    next => exact Except.ok.inj read ▸ Reader.ofDepth_gives inherited depthLimit _ _ _ found
    next => cases read

end Readers

theorem sorted_of_parse {bytes : List UInt8} {document : Value}
    (read : parse bytes = .ok document) : document.Sorted := by
  apply holds_of_parse _ read
  constructor
  case null => exact .null
  case bool => exact .bool
  case string => exact .string
  case number => exact fun _ => .number _
  case array => exact .array
  case object => exact .object

end OrdersContract.Json
