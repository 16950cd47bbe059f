import OrdersContract.Proofs.JoinedAddresses
import OrdersContract.Settings

set_option autoImplicit false

namespace OrdersContract.Address

open Text

theorem scheme?_eq_some_iff {chars rest : List Char} {scheme : String} :
    scheme? chars = some (scheme, rest) ↔
      ∃ name, chars = name ++ ':' :: rest ∧ (∀ c ∈ name, isSchemeChar c = true) ∧
        (∃ c ∈ name.head?, isLetter c = true) ∧ scheme = .ofList (name.map Char.toLower) := by
  constructor
  next =>
    intro read
    have whole := List.takeWhile_append_dropWhile (p := isSchemeChar) (l := chars)
    unfold scheme? at read
    split at read
    next first after head colon =>
      split at read
      next letter =>
        simp only [Option.some.injEq, Prod.mk.injEq] at read
        obtain ⟨rfl, rfl⟩ := read
        refine ⟨chars.takeWhile isSchemeChar, by rw [← colon, whole], ?_, ⟨first, ?_, letter⟩, rfl⟩
        · exact fun c member => List.mem_takeWhile_imp member
        · cases chars with
          | nil => simp at head
          | cons c rest =>
            obtain rfl : c = first := by simpa using head
            simp [isSchemeChar, letter]
      next => simp at read
    next => simp at read
  next =>
    rintro ⟨name, rfl, inside, ⟨c, head, letter⟩, rfl⟩
    have front : (name ++ ':' :: rest).takeWhile isSchemeChar = name := by
      rw [List.takeWhile_append_of_pos inside]
      simp [isSchemeChar, isLetter, isDigit, digitValue?]
    have back : (name ++ ':' :: rest).dropWhile isSchemeChar = ':' :: rest := by
      rw [List.dropWhile_append_of_pos inside]
      simp [isSchemeChar, isLetter, isDigit, digitValue?]
    have first : (name ++ ':' :: rest).head? = some c := by
      rw [List.head?_append, Option.mem_def.mp head, Option.some_or]
    simp [scheme?, front, back, first, letter]

theorem scheme?_append {front tail rest : List Char} {scheme : String}
    (read : scheme? (front ++ tail) = some (scheme, rest)) (noColon : ':' ∉ tail) :
    ∃ opening, rest = opening ++ tail ∧
      ∀ more, scheme? (front ++ more) = some (scheme, opening ++ more) := by
  obtain ⟨name, same, named⟩ := scheme?_eq_some_iff.mp read
  rcases List.append_eq_append_iff.mp same with ⟨within, rfl, split⟩ | ⟨after, rfl, split⟩
  case inl =>
    exact absurd (split ▸ List.mem_append_right within List.mem_cons_self) noColon
  case inr =>
    cases after with
    | nil =>
      rw [List.nil_append] at split
      exact absurd (split ▸ List.mem_cons_self) noColon
    | cons c opening =>
      simp only [List.cons_append, List.cons.injEq] at split
      obtain ⟨rfl, rfl⟩ := split
      refine ⟨opening, rfl, ?_⟩
      exact fun more => scheme?_eq_some_iff.mpr ⟨name, by simp, named⟩

theorem parse_of_web {text scheme : String} {rest : List Char} {defaultPort : Nat}
    (named : scheme? (kept (withoutMargin text)) = some (scheme, rest))
    (web : SchemeKind.of scheme = .web defaultPort) :
    parse text = withAuthority scheme (.web defaultPort) (rest.dropWhile isSlash) := by
  simp only [parse, named, web]

theorem withAuthority_scheme {scheme : String} {kind : SchemeKind} {chars : List Char}
    {address : Address} (read : withAuthority scheme kind chars = .ok address) :
    address.scheme = scheme := by
  simp only [withAuthority, bind, Except.bind] at read
  split at read
  next => simp at read
  next =>
    split at read
    next => simp at read
    next =>
      split at read
      next => simp at read
      next =>
        obtain rfl := Except.ok.inj read
        rfl

theorem file_scheme {chars : List Char} {address : Address} (read : file chars = .ok address) :
    address.scheme = "file" := by
  unfold file at read
  split at read
  next rest _ =>
    cases host : fileHost rest with
    | error fault => simp [host, Except.map] at read
    | ok result =>
      simp only [host, Except.map, Except.ok.injEq] at read
      rw [← read]
      rfl
  next =>
    obtain rfl := Except.ok.inj read
    rfl

theorem parse_scheme {text : String} {address : Address} (read : parse text = .ok address) :
    address.scheme = "file" ∨
      ∃ rest, scheme? (kept (withoutMargin text)) = some (address.scheme, rest) := by
  unfold parse at read
  cases named : scheme? (kept (withoutMargin text)) with
  | none => simp [named] at read
  | some parts =>
    obtain ⟨scheme, rest⟩ := parts
    simp only [named] at read
    cases kind : SchemeKind.of scheme with
    | file =>
      simp only [kind] at read
      exact .inl (file_scheme read)
    | web defaultPort =>
      simp only [kind] at read
      exact .inr ⟨rest, by rw [withAuthority_scheme read]⟩
    | other =>
      simp only [kind] at read
      split at read
      next => exact .inr ⟨_, by rw [withAuthority_scheme read]⟩
      next =>
        obtain rfl := Except.ok.inj read
        exact .inr ⟨rest, rfl⟩

def IsWeb (scheme : String) : Prop := scheme = "http" ∨ scheme = "https"

theorem IsWeb.kind {scheme : String} (web : IsWeb scheme) :
    ∃ defaultPort, SchemeKind.of scheme = .web defaultPort := by
  rcases web with rfl | rfl
  · exact ⟨80, rfl⟩
  · exact ⟨443, rfl⟩

theorem parse_of_accepted {base : String} (accepted : Settings.baseUrlFault? base = none) :
    ∃ address, parse base = .ok address ∧ IsWeb address.scheme := by
  unfold Settings.baseUrlFault? at accepted
  cases read : parse base with
  | error fault => simp [read] at accepted
  | ok address =>
    refine ⟨address, rfl, ?_⟩
    by_contra other
    simp only [IsWeb, not_or] at other
    simp [read, other.1, other.2] at accepted

def behindScheme (text : String) : List Char :=
  match scheme? (kept (withoutMargin text)) with
  | some (_, rest) => rest.dropWhile isSlash
  | none => []

/-- A base address of the web, taken apart. The authority is read from `auth`, and `tail` is what
stands behind it but for the slashes at the end. -/
structure Reads (base scheme : String) (defaultPort : Nat) (auth tail : List Char)
    (slashes : Nat) : Prop where
  unended : Unended auth
  detached : Detached tail
  behind : behindScheme base = auth ++ (tail ++ List.replicate slashes '/')
  own : parse base =
    withAuthority scheme (.web defaultPort) (auth ++ (tail ++ List.replicate slashes '/'))
  joined : ∀ path, IsEndpointPath path → parse (joinedText base path) =
    withAuthority scheme (.web defaultPort) (auth ++ (tail ++ (keptMargin base ++ path.toList)))
  apart : keptMargin base = [] ∨ slashes = 0

theorem kept_slashes (slashes : Nat) :
    kept (List.replicate slashes '/') = List.replicate slashes '/' := by
  simp [kept, isSkipped]

theorem withAuthority_nil (scheme : String) (defaultPort : Nat) :
    withAuthority scheme (.web defaultPort) [] = .error .emptyHost := rfl

theorem exists_authority (chars : List Char) :
    ∃ auth tail, chars = auth ++ tail ∧ Unended auth ∧ Detached tail := by
  refine ⟨chars.takeWhile (!endsAuthority true ·), chars.dropWhile (!endsAuthority true ·),
    List.takeWhile_append_dropWhile.symm, ?_, ?_⟩
  · intro c member
    simpa using List.mem_takeWhile_imp member
  · intro c head
    have stop := List.head?_dropWhile_not (!endsAuthority true ·) chars
    rw [Option.mem_def.mp head] at stop
    simpa using stop

theorem exists_opening {base : String} (accepted : Settings.baseUrlFault? base = none) :
    ∃ scheme defaultPort front slashes opening, Shares base front slashes ∧
      behindScheme base = opening ++ List.replicate slashes '/' ∧
      ∀ text more, kept (withoutMargin text) = kept front ++ more →
        parse text = withAuthority scheme (.web defaultPort) (opening ++ more) := by
  obtain ⟨address, read, web⟩ := parse_of_accepted accepted
  obtain ⟨defaultPort, kind⟩ := web.kind
  have notFile : address.scheme ≠ "file" := by
    rcases web with same | same <;> simp [same]
  obtain ⟨rest, named⟩ := (parse_scheme read).resolve_left notFile
  have filled : withoutMargin base ≠ [] := by
    intro empty
    simp [empty, kept, scheme?] at named
  obtain ⟨front, slashes, shares⟩ := exists_shares filled
  have own : kept (withoutMargin base) = kept front ++ List.replicate slashes '/' := by
    rw [shares.own, kept_append, kept_slashes]
  have cut := named
  rw [own] at cut
  obtain ⟨opening, rfl, anyway⟩ := scheme?_append cut (by simp)
  have start : opening.dropWhile isSlash ≠ [] := by
    -- Behind slashes alone there is no host.
    intro none
    have allSlashes : (opening ++ List.replicate slashes '/').dropWhile isSlash = [] := by
      rw [List.dropWhile_append, none]
      simp [isSlash]
    rw [parse_of_web named kind, allSlashes, withAuthority_nil] at read
    simp at read
  have behind (more : List Char) :
      (opening ++ more).dropWhile isSlash = opening.dropWhile isSlash ++ more := by
    simp [List.dropWhile_append, start]
  refine ⟨address.scheme, defaultPort, front, slashes, opening.dropWhile isSlash, shares, ?_, ?_⟩
  · simp only [behindScheme, named, behind]
  · intro text more same
    have alike := anyway more
    rw [← same] at alike
    rw [parse_of_web alike kind, behind]

theorem exists_reads {base : String} (accepted : Settings.baseUrlFault? base = none) :
    ∃ scheme defaultPort auth tail slashes, Reads base scheme defaultPort auth tail slashes := by
  obtain ⟨scheme, defaultPort, front, slashes, opening, shares, behind, reading⟩ :=
    exists_opening accepted
  obtain ⟨auth, tail, rfl, unended, detached⟩ := exists_authority opening
  refine ⟨scheme, defaultPort, auth, tail, slashes, unended, detached, ?_, ?_, ?_, ?_⟩
  · rw [behind, List.append_assoc]
  · rw [reading base (List.replicate slashes '/') (by rw [shares.own, kept_append, kept_slashes]),
      List.append_assoc]
  · intro path shaped
    rw [reading (joinedText base path) (keptMargin base ++ path.toList)
      (by rw [shares.joined path shaped, kept_append, kept_append, shaped.kept, keptMargin]),
      List.append_assoc]
  · exact shares.apart.imp_left fun none => by rw [keptMargin, none]; rfl

end OrdersContract.Address
