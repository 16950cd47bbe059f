import OrdersContract.Address.Read
import OrdersContract.Proofs.JoinedAddresses

set_option autoImplicit false

namespace OrdersContract

namespace Text

theorem exists_last_piece (separator : Char) (chars : List Char) :
    ∃ front last, ∀ more, separator ∉ more →
      pieces separator (chars ++ more) = front ++ [last ++ more] := by
  induction chars with
  | nil => exact ⟨[], [], fun more absent => pieces_of_not_mem absent⟩
  | cons c rest ih =>
    obtain ⟨front, last, same⟩ := ih
    by_cases cut : c = separator
    next =>
      refine ⟨[] :: front, last, fun more absent => ?_⟩
      simp [pieces, cut, same more absent]
    next =>
      cases front with
      | nil =>
        refine ⟨[], c :: last, fun more absent => ?_⟩
        simp [pieces, cut, same more absent]
      | cons piece others =>
        refine ⟨(c :: piece) :: others, last, fun more absent => ?_⟩
        simp [pieces, cut, same more absent]

theorem length_withoutSlashes_le (chars : List Char) :
    (withoutSlashes chars).length ≤ chars.length := by
  rw [withoutSlashes, dropEndWhile_eq_rdropWhile]
  exact (List.rdropWhile_prefix _ chars).length_le

theorem eq_withoutSlashes_append_iff {path : List Char} (ends : path.getLast? = some '/') :
    path = withoutSlashes path ++ ['/'] ↔ ¬['/', '/'] <:+ path := by
  obtain ⟨count, split, last⟩ := exists_slashes path
  generalize withoutSlashes path = front at split last ⊢
  subst split
  rcases count with _ | _ | count
  · rw [List.replicate_zero, List.append_nil] at ends
    exact absurd rfl (last '/' ends)
  · simp only [Nat.zero_add, List.replicate_one, true_iff]
    rintro ⟨before, same⟩
    have shorter : before ++ ['/'] ++ ['/'] = front ++ ['/'] := by
      rw [List.append_assoc]
      exact same
    rw [← List.append_cancel_right shorter] at last
    exact last '/' (by simp) rfl
  · have double : ['/', '/'] <:+ front ++ List.replicate (count + 2) '/' :=
      ⟨front ++ List.replicate count '/', by simp [List.replicate_add, List.append_assoc]⟩
    simp only [double, not_true, iff_false]
    intro same
    have lengths := congrArg List.length same
    simp at lengths

end Text

namespace Address

open Text

def Trail.addClosed (isFile : Bool) (trail : Trail) (segments : List (List Char)) : Trail :=
  segments.foldl (fun trail segment => trail.add isFile segment true) trail

theorem Trail.addAll_append (isFile : Bool) (trail : Trail) (segments : List (List Char))
    {later : List (List Char)} (filled : later ≠ []) :
    trail.addAll isFile (segments ++ later) =
      (trail.addClosed isFile segments).addAll isFile later := by
  induction segments generalizing trail with
  | nil => rfl
  | cons segment rest ih =>
    rw [List.cons_append, Trail.addAll, ih, Trail.addClosed, Trail.addClosed, List.foldl_cons]
    simp [filled]

theorem Trail.add_plain (trail : Trail) {segment : List Char} (slash : Bool)
    (plain : dotsOf (encode inPathSet (kept segment)) = .none) :
    (trail.add false segment slash).path =
      trail.path ++ encode inPathSet (kept segment) ++ if slash then ['/'] else [] := by
  cases slash <;> simp [Trail.add, plain]

theorem Trail.add_nil (trail : Trail) (slash : Bool) :
    (trail.add false [] slash).path = trail.path ++ if slash then ['/'] else [] := by
  rw [trail.add_plain slash (by decide +kernel)]
  simp [kept, encode]

theorem length_up_le (isFile : Bool) (path : List Char) : (up isFile path).length ≤ path.length := by
  have shorter (chars : List Char) : (dropSegment isFile chars).length ≤ chars.length := by
    unfold dropSegment
    split
    next => exact le_rfl
    next => simp [dropSegment.dropEnd]
  unfold up
  split
  next => exact (shorter _).trans (by simp)
  next => exact shorter _

theorem Trail.length_add_le (trail : Trail) (segment : List Char) :
    (trail.add false segment false).path.length ≤
      trail.path.length + (encode inPathSet (kept segment)).length := by
  simp only [Trail.add]
  cases dots : dotsOf (encode inPathSet (kept segment)) with
  | none => simp
  | one =>
    have filled : 0 < (encode inPathSet (kept segment)).length := by
      rw [List.length_pos_iff]
      intro empty
      simp [empty, dotsOf] at dots
    simp only [Bool.false_and, Bool.false_eq_true, if_false]
    split
    next => simp
    next => simpa only [List.length_append, List.length_singleton] using Nat.add_le_add_left filled _
  | two =>
    simp only [Bool.false_and, Bool.false_eq_true, if_false]
    have shorter := length_up_le false trail.path
    omega

theorem Trail.add_slash (trail : Trail) (segment : List Char) :
    (trail.add false segment true).path = (trail.add false segment false).path ++ ['/'] ∨
      (trail.add false segment true).path = (trail.add false segment false).path ∧
        (trail.add false segment false).path.getLast? = some '/' := by
  simp only [Trail.add]
  cases dots : dotsOf (encode inPathSet (kept segment)) with
  | none => simp
  | one =>
    simp only [Bool.false_and, Bool.false_eq_true, if_false]
    refine .inr ⟨trivial, ?_⟩
    by_cases ends : endsInSlash trail.path = true
    next =>
      rw [if_pos ends]
      simpa only [endsInSlash, beq_iff_eq] using ends
    next => simp [ends]
  | two =>
    simp only [Bool.false_and, Bool.false_eq_true, if_false, Bool.true_and]
    by_cases ends : endsInSlash (up false trail.path) = true
    next => exact .inr ⟨by simp [ends], by simpa [endsInSlash] using ends⟩
    next => exact .inl (by simp [ends])

/-- Where characters lead from the root of an address of the web. -/
def pathOf (chars : List Char) : List Char := (follow false true ['/'] chars).path

def turned (chars : List Char) : List Char := chars.map fun c => if c = '\\' then '/' else c

def behindSlash (chars : List Char) : Trail :=
  Trail.addClosed false ⟨['/'], false⟩ (pieces '/' (turned chars))

theorem pathOf_append_slash (before after : List Char) :
    pathOf (before ++ '/' :: after) =
      ((behindSlash before).addAll false (pieces '/' (turned after))).path := by
  have cut : turned (before ++ '/' :: after) = turned before ++ '/' :: turned after := by
    simp [turned]
  rw [behindSlash, ← Trail.addAll_append false _ _ (pieces_ne_nil '/' (turned after)),
    ← pieces_append, ← cut]
  rfl

theorem pathOf_slash (chars : List Char) : pathOf (chars ++ ['/']) = (behindSlash chars).path := by
  rw [pathOf_append_slash]
  change ((behindSlash chars).add false [] false).path = _
  rw [Trail.add_nil]
  simp

theorem turned_eq {chars : List Char} (inside : ∀ c ∈ chars, isSlash c = false) :
    turned chars = chars := by
  have same : ∀ c ∈ chars, (if c = '\\' then '/' else c) = id c := by
    rintro c member
    have other := inside c member
    simp only [isSlash, Bool.or_eq_false_iff, beq_eq_false_iff_ne] at other
    exact if_neg other.2
  rw [turned, List.map_congr_left same, List.map_id]

theorem exists_last_step (chars : List Char) :
    ∃ trail segment, ∀ more, (∀ c ∈ more, isSlash c = false) →
      pathOf (chars ++ more) = (Trail.add false trail (segment ++ more) false).path ∧
        behindSlash (chars ++ more) = Trail.add false trail (segment ++ more) true := by
  obtain ⟨front, last, cut⟩ := exists_last_piece '/' (turned chars)
  refine ⟨Trail.addClosed false ⟨['/'], false⟩ front, last, fun more inside => ?_⟩
  have absent : '/' ∉ more := fun member => absurd (inside '/' member) (by decide)
  have whole : pieces '/' (turned (chars ++ more)) = front ++ [last ++ more] := by
    rw [← cut more absent, turned, List.map_append, ← turned, ← turned, turned_eq inside]
  constructor
  next =>
    change (Trail.addAll false ⟨['/'], false⟩ (pieces '/' (turned (chars ++ more)))).path = _
    rw [whole, Trail.addAll_append false _ _ (by simp)]
    rfl
  next => rw [behindSlash, whole, Trail.addClosed, List.foldl_append]; rfl

theorem behindSlash_slashes (chars : List Char) (slashes : Nat) :
    (behindSlash (chars ++ List.replicate slashes '/')).path =
      (behindSlash chars).path ++ List.replicate slashes '/' := by
  induction slashes with
  | zero => simp
  | succ slashes ih =>
    have cut : pieces '/' (turned (chars ++ List.replicate slashes '/' ++ ['/'])) =
        pieces '/' (turned (chars ++ List.replicate slashes '/')) ++ [[]] := by
      rw [turned, List.map_append, ← turned]
      exact pieces_append '/' _ []
    rw [List.replicate_succ', ← List.append_assoc, ← List.append_assoc, ← ih, behindSlash, cut,
      Trail.addClosed, List.foldl_append]
    exact Trail.add_nil _ true

theorem withoutSlashes_pathOf (chars : List Char) (slashes : Nat) :
    withoutSlashes (pathOf (chars ++ List.replicate slashes '/')) =
      withoutSlashes (pathOf (chars ++ ['/'])) := by
  rw [pathOf_slash]
  cases slashes with
  | zero =>
    obtain ⟨trail, segment, step⟩ := exists_last_step chars
    obtain ⟨path, closed⟩ := step [] (by simp)
    rw [List.append_nil] at closed
    rw [List.replicate_zero, path, closed]
    rcases trail.add_slash (segment ++ []) with added | ⟨same, _⟩
    · rw [added]
      exact (withoutSlashes_append _ 1).symm
    · rw [same]
  | succ slashes =>
    rw [List.replicate_succ', ← List.append_assoc, pathOf_slash, behindSlash_slashes,
      withoutSlashes_append]

theorem pathOf_slash_getLast? (chars : List Char) :
    (pathOf (chars ++ ['/'])).getLast? = some '/' := by
  obtain ⟨trail, segment, step⟩ := exists_last_step chars
  obtain ⟨_, closed⟩ := step [] (by simp)
  rw [List.append_nil] at closed
  rw [pathOf_slash, closed]
  rcases trail.add_slash (segment ++ []) with added | ⟨same, ends⟩
  · rw [added, List.getLast?_concat]
  · rw [same, ends]

theorem pathOf_ordersPath (chars : List Char) :
    pathOf (chars ++ Contract.ordersPath.toList) =
      pathOf (chars ++ ['/']) ++ Contract.ordersPath.toList.tail := by
  have shape : Contract.ordersPath.toList = '/' :: Contract.ordersPath.toList.tail := by
    decide +kernel
  have cut : pieces '/' (turned Contract.ordersPath.toList.tail) =
      ["dashboard".toList, "orders".toList] := by
    decide +kernel
  have words : encode inPathSet (kept "dashboard".toList) ++
      ('/' :: encode inPathSet (kept "orders".toList)) = Contract.ordersPath.toList.tail := by
    decide +kernel
  rw [shape, pathOf_append_slash, cut, pathOf_slash, List.tail_cons, ← words]
  change (((behindSlash chars).add false "dashboard".toList true).add false "orders".toList
    false).path = _
  rw [Trail.add_plain _ _ (by decide +kernel), Trail.add_plain _ _ (by decide +kernel)]
  simp only [if_true, Bool.false_eq_true, if_false, List.append_nil, List.append_assoc,
    List.cons_append, List.nil_append]

theorem dotsOf_append_eq_none {front : List Char} {first last : Char} (noPoint : last.toLower ≠ '.')
    (noEscape : first.toLower = '2' → last.toLower ≠ 'e') :
    dotsOf (front ++ [first, last]) = .none := by
  have other : ∀ dots ∈ [['.'], ['%', '2', 'e'], ['.', '.'], ['.', '%', '2', 'e'],
      ['%', '2', 'e', '.'], ['%', '2', 'e', '%', '2', 'e']],
      (front ++ [first, last]).map Char.toLower ≠ dots := by
    intro dots member same
    have reversed : dots.reverse = last.toLower :: first.toLower :: (front.map Char.toLower).reverse := by
      simp [← same]
    simp only [List.mem_cons, List.not_mem_nil, or_false] at member
    rcases member with rfl | rfl | rfl | rfl | rfl | rfl <;> simp at reversed <;> grind
  simp only [List.forall_mem_cons] at other
  obtain ⟨one, oneEscaped, two, twoHalf, twoOther, twoEscaped, _⟩ := other
  simp only [dotsOf, one, oneEscaped, two, twoHalf, twoOther, twoEscaped, or_self, if_false]

theorem exists_escape {c : Char} (margin : isMargin c = true) :
    ∃ first last, encode inPathSet [c] = ['%', first, last] ∧ last.toLower ≠ '.' ∧
      (first.toLower = '2' → last.toLower ≠ 'e') := by
  have each : ∀ code ≤ 0x20, ∃ first last,
      encode inPathSet [Char.ofNat code] = ['%', first, last] ∧ last.toLower ≠ '.' ∧
        (first.toLower = '2' → last.toLower ≠ 'e') := by
    intro code bound
    refine ⟨upperHexDigit (code / 16), upperHexDigit (code % 16), ?_⟩
    revert code
    decide +kernel
  simpa using each c.toNat (by simpa [isMargin] using margin)

theorem encode_append (encoded : Char → Bool) (front back : List Char) :
    encode encoded (front ++ back) = encode encoded front ++ encode encoded back :=
  List.flatMap_append

theorem exists_last_escape {margin : List Char} (filled : margin ≠ [])
    (inside : ∀ c ∈ margin, isMargin c = true) :
    ∃ front first last, encode inPathSet margin = front ++ [first, last] ∧ last.toLower ≠ '.' ∧
      (first.toLower = '2' → last.toLower ≠ 'e') := by
  obtain ⟨init, c, rfl⟩ := (List.eq_nil_or_concat' margin).resolve_left filled
  obtain ⟨first, last, escape, named⟩ := exists_escape (inside c (by simp))
  refine ⟨encode inPathSet init ++ ['%'], first, last, ?_, named⟩
  rw [encode_append, escape]
  simp

theorem pathOf_margin {body margin : List Char} (filled : margin ≠ [])
    (inside : ∀ c ∈ margin, isMargin c = true ∧ isSkipped c = false) :
    pathOf (body ++ margin ++ ['/']) ≠ withoutSlashes (pathOf body) ++ ['/'] := by
  obtain ⟨front, first, last, escape, noPoint, noEscape⟩ :=
    exists_last_escape filled fun c member => (inside c member).1
  obtain ⟨trail, segment, step⟩ := exists_last_step body
  have whole : kept (segment ++ margin) = kept segment ++ margin := by
    have stays : kept margin = margin := by
      rw [kept, List.filter_eq_self]
      intro c member
      simp [inside c member]
    rw [kept_append, stays]
  have written : encode inPathSet (kept (segment ++ margin)) =
      encode inPathSet (kept segment) ++ front ++ [first, last] := by
    rw [whole, encode_append, escape, List.append_assoc]
  have plain : dotsOf (encode inPathSet (kept (segment ++ margin))) = .none := by
    rw [written]
    exact dotsOf_append_eq_none noPoint noEscape
  have noSlash : ∀ c ∈ margin, isSlash c = false := by
    intro c member
    have margin := (inside c member).1
    rw [Bool.eq_false_iff, Ne, isSlash, Bool.or_eq_true, beq_iff_eq, beq_iff_eq]
    rintro (rfl | rfl) <;> exact absurd margin (by decide)
  have short : (withoutSlashes (pathOf body)).length ≤
      trail.path.length + (encode inPathSet (kept segment)).length := by
    have path := (step [] (by simp)).1
    rw [List.append_nil, List.append_nil] at path
    rw [path]
    exact (length_withoutSlashes_le _).trans (trail.length_add_le segment)
  intro same
  have lengths := congrArg List.length same
  rw [pathOf_slash, (step margin noSlash).2, trail.add_plain true plain, written] at lengths
  simp only [List.length_append, List.length_cons, List.length_nil, if_true] at lengths
  omega

end Address

end OrdersContract
