import Mathlib.Data.List.DropRight
import OrdersContract.Contract.Orders
import OrdersContract.Exchange.Basic
import OrdersContract.Proofs.Authorities
import OrdersContract.Settings

/-!
A base address and the address of the endpoint joined to it are read alike up to where the base ends:
spaces and controls at its end are its margin, but stand in the middle of the joined text.
-/

set_option autoImplicit false

namespace OrdersContract

namespace Text

theorem dropEndWhile_eq_rdropWhile {α : Type} (drop : α → Bool) (items : List α) :
    dropEndWhile drop items = items.rdropWhile drop := by
  induction items using List.reverseRecOn with
  | nil => rfl
  | append_singleton items last ih =>
    by_cases dropped : drop last = true
    next =>
      rw [List.rdropWhile_concat_pos _ _ _ dropped, ← ih]
      simp [dropEndWhile, dropped]
    next =>
      rw [List.rdropWhile_concat_neg _ _ _ dropped]
      clear ih
      induction items with
      | nil => simp [dropEndWhile, dropped]
      | cons first rest ih =>
        rw [dropEndWhile] at ih ⊢
        rw [List.cons_append, List.foldr_cons, ih]
        simp

theorem dropEndWhile_append {drop : Char → Bool} {front tail : List Char}
    (dropped : ∀ c ∈ tail, drop c = true) (stays : ∀ c ∈ front.getLast?, drop c = false) :
    dropEndWhile drop (front ++ tail) = front := by
  have gone : tail.reverse.dropWhile drop = [] := by
    rw [List.dropWhile_eq_nil_iff]
    exact fun c member => dropped c (List.mem_reverse.mp member)
  rw [dropEndWhile_eq_rdropWhile, List.rdropWhile, List.reverse_append,
    dropWhile_append_of_stop _ (by rwa [List.head?_reverse]), gone, List.nil_append,
    List.reverse_reverse]

theorem rtakeWhile_append {take : Char → Bool} {front tail : List Char}
    (taken : ∀ c ∈ tail, take c = true) (stays : ∀ c ∈ front.getLast?, take c = false) :
    (front ++ tail).rtakeWhile take = tail := by
  have whole : tail.reverse.takeWhile take = tail.reverse := by
    rw [List.takeWhile_eq_self_iff]
    exact fun c member => taken c (List.mem_reverse.mp member)
  rw [List.rtakeWhile, List.reverse_append,
    takeWhile_append_of_stop _ (by rwa [List.head?_reverse]), whole, List.reverse_reverse]

theorem exists_dropEndWhile (drop : Char → Bool) (chars : List Char) :
    ∃ tail, chars = dropEndWhile drop chars ++ tail ∧ (∀ c ∈ tail, drop c = true) ∧
      ∀ c ∈ (dropEndWhile drop chars).getLast?, drop c = false := by
  rw [dropEndWhile_eq_rdropWhile]
  refine ⟨chars.rtakeWhile drop, List.rdropWhile_append_rtakeWhile.symm, ?_, ?_⟩
  · exact fun c member => List.mem_rtakeWhile_imp member
  · intro c last
    obtain ⟨filled, rfl⟩ := List.mem_getLast?_eq_getLast last
    simpa using List.rdropWhile_last_not drop chars filled

def withoutSlashes (chars : List Char) : List Char := dropEndWhile (· == '/') chars

theorem exists_slashes (chars : List Char) :
    ∃ slashes, chars = withoutSlashes chars ++ List.replicate slashes '/' ∧
      ∀ c ∈ (withoutSlashes chars).getLast?, c ≠ '/' := by
  obtain ⟨tail, split, slashes, last⟩ := exists_dropEndWhile (· == '/') chars
  have repeated : tail = List.replicate tail.length '/' :=
    List.eq_replicate_of_mem fun c member => beq_iff_eq.mp (slashes c member)
  refine ⟨tail.length, ?_, fun c ends => by simpa using last c ends⟩
  rw [← repeated]
  exact split

theorem withoutSlashes_eq {chars front : List Char} {slashes : Nat}
    (same : chars = front ++ List.replicate slashes '/') (last : ∀ c ∈ front.getLast?, c ≠ '/') :
    withoutSlashes chars = front := by
  rw [same]
  apply dropEndWhile_append
  · intro c member
    simp [List.eq_of_mem_replicate member]
  · intro c ends
    simpa using last c ends

theorem withoutSlashes_append (chars : List Char) (slashes : Nat) :
    withoutSlashes (chars ++ List.replicate slashes '/') = withoutSlashes chars := by
  obtain ⟨count, split, last⟩ := exists_slashes chars
  have whole : chars ++ List.replicate slashes '/' =
      withoutSlashes chars ++ List.replicate (count + slashes) '/' := by
    rw [← List.replicate_append_replicate, ← List.append_assoc, ← split]
  exact withoutSlashes_eq whole last

end Text

namespace Address

open Text

theorem kept_append (front back : List Char) : kept (front ++ back) = kept front ++ kept back :=
  List.filter_append ..

structure Trimmed (chars : List Char) : Prop where
  filled : chars ≠ []
  first : ∀ c ∈ chars.head?, isMargin c = false
  last : ∀ c ∈ chars.getLast?, isMargin c = false

theorem withoutMargin_eq {text : String} {before chars behind : List Char}
    (same : text.toList = before ++ (chars ++ behind)) (trimmed : Trimmed chars)
    (marginBefore : ∀ c ∈ before, isMargin c = true)
    (marginBehind : ∀ c ∈ behind, isMargin c = true) : withoutMargin text = chars := by
  have gone : before.dropWhile isMargin = [] := List.dropWhile_eq_nil_iff.mpr marginBefore
  have first : ∀ c ∈ (chars ++ behind).head?, isMargin c = false := by
    rw [List.head?_append_of_ne_nil _ trimmed.filled]
    exact trimmed.first
  rw [withoutMargin, same, dropWhile_append_of_stop _ first, gone, List.nil_append,
    dropEndWhile_append marginBehind trimmed.last]

theorem exists_margins {text : String} (filled : withoutMargin text ≠ []) :
    ∃ before, text.toList =
        before ++ (withoutMargin text ++ text.toList.rtakeWhile isMargin) ∧
      (∀ c ∈ before, isMargin c = true) ∧ Trimmed (withoutMargin text) := by
  obtain ⟨behind, split, margin, last⟩ :=
    exists_dropEndWhile isMargin (text.toList.dropWhile isMargin)
  rw [← withoutMargin] at split last
  have whole := List.takeWhile_append_dropWhile (p := isMargin) (l := text.toList)
  have lastBefore : ∀ c ∈ (text.toList.takeWhile isMargin ++ withoutMargin text).getLast?,
      isMargin c = false := by
    rw [List.getLast?_append_of_ne_nil _ filled]
    exact last
  have same : text.toList = text.toList.takeWhile isMargin ++ withoutMargin text ++ behind := by
    rw [List.append_assoc, ← split, whole]
  have tail : text.toList.rtakeWhile isMargin = behind := by
    rw [same]
    exact rtakeWhile_append margin lastBefore
  have first : ∀ c ∈ (withoutMargin text).head?, isMargin c = false := by
    intro c first
    have head : (text.toList.dropWhile isMargin).head? = some c := by
      rw [split, List.head?_append_of_ne_nil _ filled]
      exact first
    have stop := List.head?_dropWhile_not isMargin text.toList
    rw [head] at stop
    simpa using stop
  refine ⟨text.toList.takeWhile isMargin, ?_, ?_, filled, first, last⟩
  · rw [tail, ← List.append_assoc]
    exact same
  · exact fun c member => List.mem_takeWhile_imp member

def unslashed (base : String) : List Char := withoutSlashes base.toList

def joinedText (base path : String) : String := .ofList (unslashed base) ++ path

theorem joinedText_toList (base path : String) :
    (joinedText base path).toList = unslashed base ++ path.toList := by
  rw [joinedText, String.toList_append, String.toList_ofList]

theorem endpoint_eq (base path : String) :
    endpoint base path = (parse (joinedText base path)).mapError fun fault =>
      .invalidTarget (joinedText base path) fault.message := by
  rw [endpoint, ← withoutSlashes, ← unslashed]
  simp only [joinedText]
  cases parse (.ofList (unslashed base) ++ path) <;> rfl

theorem isSkipped_of_not_margin {c : Char} (inside : isMargin c = false) : isSkipped c = false := by
  rw [Bool.eq_false_iff] at inside ⊢
  intro skipped
  apply inside
  simp only [isSkipped, Bool.or_eq_true, beq_iff_eq] at skipped
  rcases skipped with (rfl | rfl) | rfl <;> decide

structure IsEndpointPath (path : String) : Prop where
  first : path.toList.head? = some '/'
  noMargin : path.toList.any isMargin = false
  noQuery : path.toList.any startsQuery = false

theorem IsEndpointPath.not_margin {path : String} (shaped : IsEndpointPath path) {c : Char}
    (member : c ∈ path.toList) : isMargin c = false :=
  Bool.eq_false_iff.mpr (List.any_eq_false.mp shaped.noMargin c member)

theorem IsEndpointPath.plain {path : String} (shaped : IsEndpointPath path) :
    ∀ c ∈ path.toList, startsQuery c = false := fun c member =>
  Bool.eq_false_iff.mpr (List.any_eq_false.mp shaped.noQuery c member)

theorem IsEndpointPath.kept {path : String} (shaped : IsEndpointPath path) :
    kept path.toList = path.toList := by
  rw [Address.kept, List.filter_eq_self]
  intro c member
  simp [isSkipped_of_not_margin (shaped.not_margin member)]

theorem isEndpointPath_slash : IsEndpointPath "/" := ⟨rfl, by decide, by decide⟩

theorem isEndpointPath_ordersPath : IsEndpointPath Contract.ordersPath :=
  ⟨by decide +kernel, by decide +kernel, by decide +kernel⟩

/-- What a base address and the joined text are both read from, up to the slashes at the end of
the one and the margin in the middle of the other. -/
structure Shares (base : String) (front : List Char) (slashes : Nat) : Prop where
  own : withoutMargin base = front ++ List.replicate slashes '/'
  joined : ∀ path, IsEndpointPath path → withoutMargin (joinedText base path) =
    front ++ (base.toList.rtakeWhile isMargin ++ path.toList)
  apart : base.toList.rtakeWhile isMargin = [] ∨ slashes = 0

theorem isMargin_of_mem_rtakeWhile {base : String} {c : Char}
    (member : c ∈ base.toList.rtakeWhile isMargin) : isMargin c = true :=
  List.mem_rtakeWhile_imp member

/-- The characters behind the end of a base address that are left in the joined text. -/
def keptMargin (base : String) : List Char := kept (base.toList.rtakeWhile isMargin)

theorem isMargin_of_mem_keptMargin {base : String} {c : Char} (member : c ∈ keptMargin base) :
    isMargin c = true :=
  isMargin_of_mem_rtakeWhile (List.mem_of_mem_filter member)

theorem keptMargin_inside {base : String} :
    ∀ c ∈ keptMargin base, isMargin c = true ∧ isSkipped c = false := by
  intro c member
  refine ⟨isMargin_of_mem_keptMargin member, ?_⟩
  simpa using (List.mem_filter.mp member).2

theorem keptMargin_eq_nil_iff (base : String) :
    keptMargin base = [] ↔ ∀ c ∈ base.toList.rtakeWhile isMargin, isSkipped c = true := by
  simp [keptMargin, kept]

theorem shares_of_unslashed {base : String} {before front : List Char} {slashes : Nat}
    (filled : withoutMargin base ≠ [])
    (own : withoutMargin base = front ++ List.replicate slashes '/')
    (same : unslashed base = before ++ (front ++ base.toList.rtakeWhile isMargin))
    (margin : ∀ c ∈ before, isMargin c = true) (first : ∀ c ∈ front.head?, isMargin c = false)
    (apart : base.toList.rtakeWhile isMargin = [] ∨ slashes = 0) : Shares base front slashes where
  own := own
  apart := apart
  joined := by
    intro path shaped
    have ends : path.toList ≠ [] := by
      intro empty
      simpa [empty] using shaped.first
    have split : (joinedText base path).toList = before ++
        (front ++ (base.toList.rtakeWhile isMargin ++ path.toList) ++ []) := by
      simp [joinedText_toList, same]
    refine withoutMargin_eq split ⟨List.append_ne_nil_of_right_ne_nil _
      (List.append_ne_nil_of_right_ne_nil _ ends), ?_, ?_⟩ margin (by simp)
    · intro c head
      cases front with
      | cons f rest => exact first c head
      | nil =>
        -- Without anything in front there is no margin either.
        rcases apart with none | rfl
        · rw [none] at head
          exact shaped.not_margin (List.mem_of_mem_head? head)
        · simp [own] at filled
    · intro c last
      rw [← List.append_assoc, List.getLast?_append_of_ne_nil _ ends] at last
      exact shaped.not_margin (List.mem_of_getLast? last)

theorem exists_shares {base : String} (filled : withoutMargin base ≠ []) :
    ∃ front slashes, Shares base front slashes := by
  obtain ⟨before, same, margin, trimmed⟩ := exists_margins filled
  have noSlash {chars : List Char} (margin : ∀ c ∈ chars, isMargin c = true) :
      ∀ c ∈ chars.getLast?, c ≠ '/' := by
    rintro c last rfl
    exact absurd (margin '/' (List.mem_of_getLast? last)) (by decide)
  by_cases bare : base.toList.rtakeWhile isMargin = []
  next =>
    obtain ⟨slashes, split, last⟩ := exists_slashes (withoutMargin base)
    generalize withoutSlashes (withoutMargin base) = front at split last
    have stays : ∀ c ∈ (before ++ front).getLast?, c ≠ '/' := by
      by_cases empty : front = []
      next => simpa [empty] using noSlash margin
      next =>
        rw [List.getLast?_append_of_ne_nil _ empty]
        exact last
    have whole : base.toList = before ++ front ++ List.replicate slashes '/' := by
      rw [same, bare, List.append_nil, split, List.append_assoc]
    have cut : unslashed base = before ++ front := withoutSlashes_eq whole stays
    have first : ∀ c ∈ front.head?, isMargin c = false := by
      intro c head
      apply trimmed.first
      rw [split, List.head?_append, Option.mem_def.mp head, Option.some_or]
      rfl
    exact ⟨front, slashes, shares_of_unslashed filled split
      (by rw [cut, bare, List.append_nil]) margin first (.inl bare)⟩
  next =>
    have stays : ∀ c ∈ base.toList.getLast?, c ≠ '/' := by
      rw [same, ← List.append_assoc, List.getLast?_append_of_ne_nil _ bare]
      exact noSlash fun c member => isMargin_of_mem_rtakeWhile member
    have whole : base.toList = base.toList ++ List.replicate 0 '/' := by
      rw [List.replicate_zero, List.append_nil]
    have cut : unslashed base = base.toList := withoutSlashes_eq whole stays
    exact ⟨withoutMargin base, 0, shares_of_unslashed filled (by simp) (by rw [cut, ← same]) margin
      trimmed.first (.inr rfl)⟩

end Address

end OrdersContract
