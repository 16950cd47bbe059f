import OrdersContract.Proofs.BaseAddresses

/-!
When the endpoint below a base address has an address. A base address that the settings accept may
end in its host or port with a space behind it; the endpoint's path is joined behind the space, and
then nothing can be read.
-/

set_option autoImplicit false

namespace OrdersContract

theorem exists_of_bind_eq_ok {ε α β : Type} {reading : Except ε α} {next : α → Except ε β}
    {result : β} (bound : reading >>= next = .ok result) :
    ∃ value, reading = .ok value ∧ next value = .ok result := by
  cases reading with
  | error fault => cases bound
  | ok value => exact ⟨value, rfl, bound⟩

theorem Settings.baseUrlFault?_of_resolve {arguments : List String}
    {environment : String → Option String} {settings : Settings}
    (resolved : resolve arguments environment = .ok settings) :
    baseUrlFault? settings.baseUrl = none := by
  unfold resolve at resolved
  cases extra : arguments[1]? with
  | some text =>
    simp only [extra] at resolved
    cases resolved
  | none =>
    simp only [extra] at resolved
    cases fault : baseUrlFault? (arguments.head?.getD default.baseUrl) with
    | some reason =>
      simp only [fault] at resolved
      cases resolved
    | none =>
      simp only [fault] at resolved
      obtain ⟨contract, _, resolved⟩ := exists_of_bind_eq_ok resolved
      obtain ⟨timeout, _, resolved⟩ := exists_of_bind_eq_ok resolved
      obtain ⟨limit, _, resolved⟩ := exists_of_bind_eq_ok resolved
      obtain ⟨format, _, resolved⟩ := exists_of_bind_eq_ok resolved
      rw [← Except.ok.inj resolved]
      exact fault

namespace Address

open Text

theorem Detached.append {tail more : List Char} (detached : Detached tail)
    (others : tail = [] → Detached more) : Detached (tail ++ more) := by
  cases tail with
  | nil => exact others rfl
  | cons c rest => exact detached

theorem detached_slashes (slashes : Nat) : Detached (List.replicate slashes '/') := by
  cases slashes with
  | zero => simp [Detached]
  | succ slashes => simp [Detached, List.replicate_succ, endsAuthority]

theorem IsEndpointPath.detached {path : String} (shaped : IsEndpointPath path) :
    Detached path.toList := by
  intro c head
  obtain rfl := Option.some.inj (shaped.first.symm.trans head)
  rfl

theorem unended_keptMargin (base : String) : Unended (keptMargin base) := by
  intro c member
  have margin := isMargin_of_mem_keptMargin member
  rw [Bool.eq_false_iff, Ne, endsAuthority_iff]
  rintro (rfl | rfl | rfl | rfl) <;> exact absurd margin (by decide)

namespace Reads

variable {base scheme : String} {defaultPort slashes : Nat} {auth tail : List Char}

theorem parse_base (reads : Reads base scheme defaultPort auth tail slashes) :
    parse base = (readAuthority (.web defaultPort) auth).map
      (assembled scheme (.web defaultPort) (tail ++ List.replicate slashes '/')) := by
  rw [reads.own, withAuthority_append scheme defaultPort reads.unended
    (reads.detached.append fun _ => detached_slashes slashes)]

theorem parse_joined (reads : Reads base scheme defaultPort auth tail slashes) {path : String}
    (shaped : IsEndpointPath path) (apart : tail = [] → keptMargin base = []) :
    parse (joinedText base path) = (readAuthority (.web defaultPort) auth).map
      (assembled scheme (.web defaultPort) (tail ++ (keptMargin base ++ path.toList))) := by
  have detached : Detached (tail ++ (keptMargin base ++ path.toList)) := by
    refine reads.detached.append fun empty => ?_
    rw [apart empty, List.nil_append]
    exact shaped.detached
  rw [reads.joined path shaped, withAuthority_append scheme defaultPort reads.unended detached]

/-- A margin directly behind the authority becomes a part of it, and no authority ends in one. -/
theorem parse_joined_error (reads : Reads base scheme defaultPort auth tail slashes) {path : String}
    (shaped : IsEndpointPath path) (bare : tail = []) (margin : keptMargin base ≠ []) :
    ∃ fault, parse (joinedText base path) = .error fault := by
  have unended : Unended (auth ++ keptMargin base) := by
    intro c member
    rcases List.mem_append.mp member with own | added
    · exact reads.unended c own
    · exact unended_keptMargin base c added
  have reading := withAuthority_append scheme defaultPort unended shaped.detached
  rw [reads.joined path shaped, bare, List.nil_append, ← List.append_assoc, reading]
  cases read : readAuthority (.web defaultPort) (auth ++ keptMargin base) with
  | error fault => exact ⟨fault, rfl⟩
  | ok authority =>
    have last := readAuthority_getLast unended read
    rw [List.getLast?_append_of_ne_nil _ margin, List.getLast?_eq_some_getLast margin] at last
    have above := last _ rfl
    have below := isMargin_of_mem_keptMargin (List.getLast_mem margin)
    simp only [isMargin, decide_eq_true_eq] at below
    omega

theorem unended_behindScheme_iff (reads : Reads base scheme defaultPort auth tail slashes) :
    Unended (behindScheme base) ↔ tail = [] ∧ slashes = 0 := by
  rw [reads.behind]
  constructor
  next =>
    intro unended
    cases tail with
    | cons c rest =>
      have ends := reads.detached c rfl
      simp [unended c (by simp)] at ends
    | nil =>
      cases slashes with
      | zero => exact ⟨rfl, rfl⟩
      | succ slashes => exact absurd (unended '/' (by simp [List.replicate_succ])) (by decide)
  next =>
    rintro ⟨rfl, rfl⟩
    simpa using reads.unended

end Reads

theorem endpoint_error_iff {arguments : List String} {environment : String → Option String}
    {settings : Settings} (resolved : Settings.resolve arguments environment = .ok settings) :
    (∃ fault, endpoint settings.baseUrl Contract.ordersPath = .error fault) ↔
      (∀ c ∈ behindScheme settings.baseUrl, endsAuthority true c = false) ∧
        ∃ c ∈ settings.baseUrl.toList.rtakeWhile isMargin, isSkipped c = false := by
  have accepted := Settings.baseUrlFault?_of_resolve resolved
  obtain ⟨scheme, defaultPort, auth, tail, slashes, reads⟩ := exists_reads accepted
  obtain ⟨address, read, _⟩ := parse_of_accepted accepted
  have bare : (∃ c ∈ settings.baseUrl.toList.rtakeWhile isMargin, isSkipped c = false) ↔
      keptMargin settings.baseUrl ≠ [] := by
    simp [keptMargin_eq_nil_iff]
  rw [bare, endpoint_eq]
  change _ ↔ Unended _ ∧ _
  rw [reads.unended_behindScheme_iff]
  constructor
  next =>
    rintro ⟨fault, failed⟩
    by_contra fine
    have apart : tail = [] → keptMargin settings.baseUrl = [] := by
      intro empty
      by_contra margin
      exact fine ⟨⟨empty, reads.apart.resolve_left margin⟩, margin⟩
    rw [reads.parse_base] at read
    rw [reads.parse_joined isEndpointPath_ordersPath apart] at failed
    cases authority : readAuthority (.web defaultPort) auth with
    | error fault => simp [authority, Except.map] at read
    | ok authority => simp [authority, Except.map, Except.mapError] at failed
  next =>
    rintro ⟨⟨empty, _⟩, margin⟩
    obtain ⟨fault, failed⟩ := reads.parse_joined_error isEndpointPath_ordersPath empty margin
    rw [failed]
    exact ⟨_, rfl⟩

def spacedSettings : Settings := { Settings.default with baseUrl := Settings.localServer ++ " " }

theorem resolve_spaced :
    Settings.resolve [spacedSettings.baseUrl] (fun _ => none) = .ok spacedSettings := by
  decide +kernel

theorem behind_spaced : behindScheme spacedSettings.baseUrl = "localhost:8080".toList := by
  decide +kernel

theorem endpoint_of_spaced_refused :
    Settings.resolve [spacedSettings.baseUrl] (fun _ => none) = .ok spacedSettings ∧
      ∃ fault, endpoint spacedSettings.baseUrl Contract.ordersPath = .error fault :=
  ⟨resolve_spaced, (endpoint_error_iff resolve_spaced).mpr
    ⟨by rw [behind_spaced]; simp [endsAuthority], ' ', by decide +kernel, by decide⟩⟩

theorem accepted_base_without_endpoint :
    ¬∀ (arguments : List String) (environment : String → Option String) (settings : Settings),
      Settings.resolve arguments environment = .ok settings →
        ∃ address, endpoint settings.baseUrl Contract.ordersPath = .ok address := by
  intro usable
  obtain ⟨address, reached⟩ := usable _ _ _ resolve_spaced
  have stuck : endpoint spacedSettings.baseUrl Contract.ordersPath =
      .error (.invalidTarget (joinedText spacedSettings.baseUrl Contract.ordersPath)
        AddressFault.port.message) := by
    decide +kernel
  rw [stuck] at reached
  cases reached

end Address

end OrdersContract
