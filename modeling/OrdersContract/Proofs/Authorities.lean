import Mathlib.Data.List.DropRight
import Mathlib.Tactic.ByContra
import OrdersContract.Address.Read
import OrdersContract.Proofs.HostNames
import OrdersContract.Text.Pieces

set_option autoImplicit false

namespace OrdersContract.Address

open Text

def Unended (chars : List Char) : Prop := ∀ c ∈ chars, endsAuthority true c = false

def Detached (chars : List Char) : Prop := ∀ c ∈ chars.head?, endsAuthority true c = true

theorem endsAuthority_iff (c : Char) :
    endsAuthority true c = true ↔ c = '/' ∨ c = '?' ∨ c = '#' ∨ c = '\\' := by
  simp [endsAuthority, or_assoc]

theorem contains_eq_endsAuthority (c : Char) :
    ['/', '\\', '?', '#'].contains c = endsAuthority true c := by
  rw [Bool.eq_iff_iff, endsAuthority_iff, List.contains_iff_mem]
  simp only [List.mem_cons, List.not_mem_nil, or_false]
  grind

theorem Detached.not {tail : List Char} (detached : Detached tail) (test : Char → Bool)
    (refuses : ['/', '?', '#', '\\'].any test = false) : ∀ c ∈ tail.head?, test c = false := by
  intro c first
  have ends := (endsAuthority_iff c).mp (detached c first)
  rw [List.any_eq_false] at refuses
  exact Bool.eq_false_iff.mpr (refuses c (by simpa using ends))

theorem takeWhile_authority {auth tail : List Char} (unended : Unended auth)
    (detached : Detached tail) :
    (auth ++ tail).takeWhile (fun c => !endsAuthority true c) = auth := by
  have inside : ∀ c ∈ auth, (!endsAuthority true c) = true := by
    intro c member
    rw [unended c member, Bool.not_false]
  rw [List.takeWhile_append_of_pos inside]
  cases tail with
  | nil => simp
  | cons c rest =>
    have ends := detached c rfl
    simp [ends]

theorem port_append (kind : SchemeKind) {chars tail : List Char} (unended : Unended chars)
    (detached : Detached tail) :
    port kind (chars ++ tail) = (port kind chars).map fun (number, _) => (number, tail) := by
  have stop := detached.not isDigit (by decide)
  have behind : (chars ++ tail).drop (chars.takeWhile isDigit).length =
      chars.dropWhile isDigit ++ tail := by
    rw [List.drop_append_of_le_length (List.takeWhile_prefix isDigit).length_le,
      drop_length_takeWhile]
  simp only [port, takeWhile_append_of_stop chars stop, behind, drop_length_takeWhile,
    contains_eq_endsAuthority]
  by_cases large : 65535 < numeral 10 ((chars.takeWhile isDigit).filterMap digitValue?)
  next => simp [large, Except.map]
  next =>
    cases rest : chars.dropWhile isDigit with
    | nil =>
      have ends : tail.head?.all (endsAuthority true) = true := by
        rw [Option.all_eq_true]
        exact detached
      simp [large, ends, Except.map]
    | cons c others =>
      have member : c ∈ chars := (List.dropWhile_suffix isDigit).subset (by simp [rest])
      simp [large, unended c member, Except.map]

theorem hostLength_append (inBrackets : Bool) (chars : List Char) {tail : List Char}
    (detached : Detached tail) :
    hostLength true inBrackets (chars ++ tail) = hostLength true inBrackets chars := by
  induction chars generalizing inBrackets with
  | nil =>
    cases tail with
    | nil => rfl
    | cons c rest => simp [hostLength, detached c rfl]
  | cons c rest ih => simp [hostLength, ih]

theorem drop_hostLength (inBrackets : Bool) {chars : List Char} (unended : Unended chars) :
    chars.drop (hostLength true inBrackets chars) = [] ∨
      ∃ ports, chars.drop (hostLength true inBrackets chars) = ':' :: ports := by
  induction chars generalizing inBrackets with
  | nil => simp [hostLength]
  | cons c rest ih =>
    have inside : endsAuthority true c = false := unended c (by simp)
    by_cases colon : (c == ':' && !inBrackets) = true
    next =>
      have same : c = ':' := by
        rw [Bool.and_eq_true, beq_iff_eq] at colon
        exact colon.1
      simp only [hostLength, inside, colon, Bool.false_or, if_true, List.drop_zero]
      exact .inr ⟨rest, by rw [same]⟩
    next =>
      simp only [hostLength, inside, colon, Bool.or_false, Bool.false_eq_true, if_false,
        List.drop_succ_cons]
      exact ih _ fun c member => unended c (List.mem_cons_of_mem _ member)

theorem hostLength_le (inBrackets : Bool) (chars : List Char) :
    hostLength true inBrackets chars ≤ chars.length := by
  induction chars generalizing inBrackets with
  | nil => simp [hostLength]
  | cons c rest ih =>
    simp only [hostLength]
    split
    next => omega
    next => exact Nat.succ_le_succ (ih _)

theorem hostAndPort_append (defaultPort : Nat) {chars tail : List Char} (unended : Unended chars)
    (detached : Detached tail) :
    hostAndPort (.web defaultPort) (chars ++ tail) =
      (hostAndPort (.web defaultPort) chars).map fun (host, port, _) => (host, port, tail) := by
  have special : (SchemeKind.web defaultPort).isSpecial = true := rfl
  have short := hostLength_le false chars
  have front : (chars ++ tail).take (hostLength true false chars) =
      chars.take (hostLength true false chars) := List.take_append_of_le_length short
  have back : (chars ++ tail).drop (hostLength true false chars) =
      chars.drop (hostLength true false chars) ++ tail := List.drop_append_of_le_length short
  simp only [hostAndPort, special, hostLength_append false chars detached, front, back, if_true]
  by_cases empty : (chars.take (hostLength true false chars)).isEmpty
  next => simp [empty, bind, Except.bind, Except.map]
  next =>
    cases host : domainHost (chars.take (hostLength true false chars)) with
    | error fault => simp [empty, bind, Except.bind, Except.map]
    | ok host =>
      rcases drop_hostLength false unended with rest | ⟨ports, rest⟩
      case inl =>
        cases tail with
        | nil => simp [empty, rest, bind, Except.bind, Except.map]
        | cons c after =>
          simp only [empty, rest, List.nil_append, bind, Except.bind, Except.map,
            Bool.false_eq_true, if_false]
          -- What ends an authority is no colon.
          split
          next same =>
            obtain ⟨rfl, _⟩ := List.cons.inj same
            exact absurd (detached ':' rfl) (by decide)
          next => rfl
      case inr =>
        have inside : Unended ports := by
          intro c member
          exact unended c (List.drop_subset _ _ (rest ▸ List.mem_cons_of_mem _ member))
        have reading := port_append (.web defaultPort) inside detached
        cases number : port (.web defaultPort) ports <;>
          simp [empty, rest, reading, number, bind, Except.bind, Except.map]

def userPart (auth : List Char) : List Char :=
  auth.take (auth.length - (auth.reverse.takeWhile (· != '@')).length - 1)

theorem detached_nil : Detached [] := by
  simp [Detached]

theorem credentials_of_unended {auth tail : List Char} (unended : Unended auth)
    (detached : Detached tail) : credentials true (auth ++ tail) =
      if auth.contains '@' then
        if (userPart auth).isEmpty &&
            (auth.drop ((userPart auth).length + 1) ++ tail).head?.any (endsAuthority true) then
          .error .emptyHost
        else .ok (.ofChars (userPart auth), auth.drop ((userPart auth).length + 1) ++ tail)
      else .ok (⟨[], none⟩, auth ++ tail) := by
  simp only [credentials, takeWhile_authority unended detached]
  by_cases marked : auth.contains '@' = true
  next =>
    have filled : 0 < auth.length := List.length_pos_of_mem (List.contains_iff_mem.mp marked)
    have within : (userPart auth).length + 1 ≤ auth.length := by
      simp only [userPart, List.length_take]
      omega
    rw [if_pos marked, if_pos marked, ← userPart, List.drop_append_of_le_length within]
  next => rw [if_neg marked, if_neg marked]

theorem credentials_append {auth tail : List Char} (unended : Unended auth)
    (detached : Detached tail) :
    credentials true (auth ++ tail) =
        (credentials true auth).map (fun (user, rest) => (user, rest ++ tail)) ∨
      credentials true (auth ++ tail) = .error .emptyHost ∧
        ∃ user, credentials true auth = .ok (user, []) := by
  have own := credentials_of_unended unended detached_nil
  rw [List.append_nil, List.append_nil] at own
  rw [credentials_of_unended unended detached, own]
  by_cases marked : auth.contains '@' = true
  next =>
    simp only [marked, if_true]
    cases rest : auth.drop ((userPart auth).length + 1) with
    | nil =>
      -- A lone mark is told apart from one with a host only by what follows.
      by_cases stuck : ((userPart auth).isEmpty && tail.head?.any (endsAuthority true)) = true
      next => simp [stuck, Except.map]
      next => simp [stuck, Except.map]
    | cons c others =>
      have inside : endsAuthority true c = false :=
        unended c (List.drop_subset _ _ (rest ▸ List.mem_cons_self))
      simp [inside, Except.map]
  next =>
    rw [if_neg marked, if_neg marked]
    exact .inl rfl

theorem credentials_suffix {auth rest : List Char} {user : Credentials} (unended : Unended auth)
    (read : credentials true auth = .ok (user, rest)) : rest <:+ auth := by
  have own := credentials_of_unended unended detached_nil
  rw [List.append_nil, List.append_nil, read] at own
  split at own
  next =>
    split at own
    next => simp at own
    next =>
      obtain ⟨_, rfl⟩ := Prod.mk.inj (Except.ok.inj own)
      exact List.drop_suffix _ _
  next =>
    obtain ⟨_, rfl⟩ := Prod.mk.inj (Except.ok.inj own)
    exact List.suffix_rfl

/-- The authority written by characters that do not end one. -/
def readAuthority (kind : SchemeKind) (auth : List Char) : Except AddressFault Authority := do
  let (user, rest) ← credentials true auth
  let (host, port, _) ← hostAndPort kind rest
  .ok ⟨.ofList user.username, user.password.map .ofList, host, port⟩

theorem hostAndPort_parts {defaultPort : Nat} {chars rest : List Char} {host : Option Host}
    {number : Option Nat} (unended : Unended chars)
    (read : hostAndPort (.web defaultPort) chars = .ok (host, number, rest)) :
    ∃ name, host = some name ∧
      domainHost (chars.take (hostLength true false chars)) = .ok name ∧
      (chars.drop (hostLength true false chars) = [] ∨
        ∃ ports, chars.drop (hostLength true false chars) = ':' :: ports ∧
          port (.web defaultPort) ports = .ok (number, rest)) := by
  have special : (SchemeKind.web defaultPort).isSpecial = true := rfl
  simp only [hostAndPort, special, if_true, bind, Except.bind] at read
  by_cases empty : (chars.take (hostLength true false chars)).isEmpty = true
  next => simp [empty] at read
  next =>
    simp only [empty, Bool.false_eq_true, if_false] at read
    cases named : domainHost (chars.take (hostLength true false chars)) with
    | error fault => simp [named, Except.map] at read
    | ok name =>
      simp only [named, Except.map] at read
      rcases drop_hostLength false unended with behind | ⟨ports, behind⟩
      case inl =>
        simp only [behind, Except.ok.injEq, Prod.mk.injEq] at read
        exact ⟨name, read.1.symm, rfl, .inl behind⟩
      case inr =>
        simp only [behind, Option.isNone_some, Bool.false_eq_true, if_false] at read
        cases numbered : port (.web defaultPort) ports with
        | error fault => simp [numbered] at read
        | ok result =>
          simp only [numbered, Except.ok.injEq, Prod.mk.injEq] at read
          obtain ⟨rfl, rfl, rfl⟩ := read
          exact ⟨name, rfl, rfl, .inr ⟨ports, behind, numbered⟩⟩

def assembled (scheme : String) (kind : SchemeKind) (tail : List Char) (authority : Authority) :
    Address :=
  { scheme
    authority := some authority
    path := .ofList (pathAfterAuthority kind (untilQuery tail).1).path
    query := (queryAndFragment true (untilQuery tail).2).1
    fragment := (queryAndFragment true (untilQuery tail).2).2 }

theorem withAuthority_append (scheme : String) (defaultPort : Nat) {auth tail : List Char}
    (unended : Unended auth) (detached : Detached tail) :
    withAuthority scheme (.web defaultPort) (auth ++ tail) =
      (readAuthority (.web defaultPort) auth).map (assembled scheme (.web defaultPort) tail) := by
  have special : (SchemeKind.web defaultPort).isSpecial = true := rfl
  simp only [withAuthority, readAuthority, special]
  rcases credentials_append unended detached with same | ⟨stuck, user, read⟩
  case inl =>
    rw [same]
    cases read : credentials true auth with
    | error fault => rfl
    | ok result =>
      obtain ⟨user, rest⟩ := result
      have inside : Unended rest := fun c member =>
        unended c ((credentials_suffix unended read).subset member)
      simp only [Except.map, bind, Except.bind, hostAndPort_append defaultPort inside detached]
      cases found : hostAndPort (.web defaultPort) rest with
      | error fault => rfl
      | ok parts =>
        obtain ⟨host, number, _⟩ := parts
        obtain ⟨name, rfl, _⟩ := hostAndPort_parts inside found
        rfl
  case inr =>
    rw [stuck, read]
    rfl

theorem digits_of_port {kind : SchemeKind} {chars rest : List Char} {number : Option Nat}
    (unended : Unended chars) (read : port kind chars = .ok (number, rest)) :
    ∀ c ∈ chars, isDigit c = true := by
  have behind : chars.dropWhile isDigit = [] := by
    cases other : chars.dropWhile isDigit with
    | nil => rfl
    | cons c others =>
      have member : c ∈ chars := (List.dropWhile_suffix isDigit).subset (by simp [other])
      simp only [port, drop_length_takeWhile, other, contains_eq_endsAuthority, List.head?_cons,
        Option.all_some, unended c member] at read
      split at read <;> simp at read
  exact List.dropWhile_eq_nil_iff.mp behind

theorem lt_of_isDigit {c : Char} (digit : isDigit c = true) : 0x20 < c.toNat := by
  by_cases first : '0' ≤ c
  next =>
    have order : 0x30 ≤ c.toNat := first
    omega
  next => simp [isDigit, digitValue?, first] at digit

theorem domainHost_getLast {chars : List Char} {host : Host} (read : domainHost chars = .ok host) :
    ∀ c ∈ chars.getLast?, 0x20 < c.toNat := by
  intro c last
  by_cases bracket : chars.head? = some '['
  next =>
    by_cases closed : chars.getLast? = some ']'
    next =>
      obtain rfl := Option.some.inj (closed.symm.trans last)
      decide
    next => simp [domainHost, bracket, bracketed, closed] at read
  next =>
    by_contra low
    have unread := Domain.read?_of_le_space (Nat.not_lt.mp low) (List.mem_of_getLast? last)
    simp [domainHost, bracket, unread] at read

theorem hostAndPort_getLast {defaultPort : Nat} {chars rest : List Char} {host : Option Host}
    {number : Option Nat} (unended : Unended chars)
    (read : hostAndPort (.web defaultPort) chars = .ok (host, number, rest)) :
    chars ≠ [] ∧ ∀ c ∈ chars.getLast?, 0x20 < c.toNat := by
  obtain ⟨name, rfl, named, behind⟩ := hostAndPort_parts unended read
  constructor
  next =>
    rintro rfl
    have empty : domainHost [] = .error .emptyHost := by
      decide +kernel
    simp [empty] at named
  next =>
    intro c last
    have whole := List.take_append_drop (hostLength true false chars) chars
    rcases behind with none | ⟨ports, colon, numbered⟩
    case inl =>
      rw [none, List.append_nil] at whole
      rw [whole] at named
      exact domainHost_getLast named c last
    case inr =>
      have inside : Unended ports := fun c member =>
        unended c (List.drop_subset _ _ (colon ▸ List.mem_cons_of_mem _ member))
      rw [← whole, colon, List.getLast?_append_cons] at last
      rcases List.mem_cons.mp (List.mem_of_getLast? last) with rfl | member
      · decide
      · exact lt_of_isDigit (digits_of_port inside numbered c member)

theorem readAuthority_getLast {defaultPort : Nat} {auth : List Char} {authority : Authority}
    (unended : Unended auth) (read : readAuthority (.web defaultPort) auth = .ok authority) :
    ∀ c ∈ auth.getLast?, 0x20 < c.toNat := by
  simp only [readAuthority, bind, Except.bind] at read
  cases split : credentials true auth with
  | error fault => simp [split] at read
  | ok result =>
    obtain ⟨user, rest⟩ := result
    obtain ⟨before, rfl⟩ := credentials_suffix unended split
    have inside : Unended rest := fun c member => unended c (List.mem_append_right _ member)
    simp only [split] at read
    cases found : hostAndPort (.web defaultPort) rest with
    | error fault => simp [found] at read
    | ok parts =>
      obtain ⟨filled, last⟩ := hostAndPort_getLast inside found
      rw [List.getLast?_append_of_ne_nil _ filled]
      exact last

end OrdersContract.Address
