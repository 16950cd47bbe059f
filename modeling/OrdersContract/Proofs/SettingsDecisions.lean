import OrdersContract.Proofs.Decimals
import OrdersContract.Proofs.Endpoints

/-!
How the settings are decided. Six stages can refuse them, and the first that does gives the error;
the texts that a stage accepts are described without the readers.
-/

set_option autoImplicit false

namespace OrdersContract

namespace Text

def Padded (inner : List Char) (text : String) : Prop :=
  ∃ front back, text.toList = front ++ inner ++ back ∧ (∀ c ∈ front, isBlank c = true) ∧
    ∀ c ∈ back, isBlank c = true

theorem padded_trim (text : String) : Padded (trim text).toList text := by
  obtain ⟨back, split, blank, _⟩ := exists_dropEndWhile isBlank (text.toList.dropWhile isBlank)
  refine ⟨text.toList.takeWhile isBlank, back, ?_, fun c => List.mem_takeWhile_imp, blank⟩
  rw [trim, String.toList_ofList, List.append_assoc, ← split, List.takeWhile_append_dropWhile]

theorem toList_trim_of_padded {inner : List Char} {text : String} (padded : Padded inner text)
    (filled : inner ≠ []) (solid : ∀ c ∈ inner, isBlank c = false) :
    (trim text).toList = inner := by
  obtain ⟨front, back, split, blankFront, blankBack⟩ := padded
  have stop : ∀ c ∈ (inner ++ back).head?, isBlank c = false := by
    rw [List.head?_append_of_ne_nil _ filled]
    exact fun c head => solid c (List.mem_of_mem_head? head)
  have last : ∀ c ∈ inner.getLast?, isBlank c = false :=
    fun c ends => solid c (List.mem_of_mem_getLast? ends)
  rw [trim, String.toList_ofList, split, List.append_assoc,
    dropWhile_append_of_stop _ stop, List.dropWhile_eq_nil_iff.mpr blankFront,
    List.nil_append, dropEndWhile_append blankBack last]

theorem trim_eq_iff {word text : String} (filled : word ≠ "")
    (solid : word.toList.all (fun c => !isBlank c) = true) :
    trim text = word ↔ Padded word.toList text := by
  constructor
  next =>
    rintro rfl
    exact padded_trim text
  next =>
    intro padded
    exact String.toList_injective
      (toList_trim_of_padded padded (by simpa using filled) (by simpa using solid))

end Text

open Text

namespace Settings

/-- A plus sign or none, then decimal digits, among them leading zeros, for a positive number of at
most 64 bits. -/
def WritesPositive (text : String) (n : Nat) : Prop :=
  ∃ sign digits, Padded (sign ++ digits) text ∧ (sign = [] ∨ sign = ['+']) ∧ digits ≠ [] ∧
    (∀ c ∈ digits, isDigit c = true) ∧ numeral 10 (digits.map fun c => c.toNat - '0'.toNat) = n ∧
    0 < n ∧ n < 0x10000000000000000

def NamesPreset (text : String) (preset : Preset) : Prop := Padded preset.name.toList text

def NamesFormat (text : String) : OutputFormat → Prop
  | .text => Padded "text".toList text
  | .json => Padded "json".toList text

theorem readPositive?_eq_some_iff {text : String} {n : Nat} :
    readPositive? text = some n ↔ WritesPositive text n := by
  have read : readPositive? text = some n ↔
      ∃ sign digits, (trim text).toList = sign ++ digits ∧ (sign = [] ∨ sign = ['+']) ∧
        readDecimal? digits = some n ∧ 0 < n ∧ n < 0x10000000000000000 := by
    simp only [readPositive?, Option.filter_eq_some_iff, Bool.and_eq_true, decide_eq_true_eq]
    split
    next rest signed =>
      rw [signed]
      constructor
      · rintro ⟨read, bounds⟩
        exact ⟨['+'], rest, rfl, .inr rfl, read, bounds⟩
      · rintro ⟨sign, digits, split, rfl | rfl, read, bounds⟩
        · -- A plus sign is no digit.
          obtain rfl : '+' :: rest = digits := split
          obtain ⟨_, each, _⟩ := readDecimal?_eq_some_iff.mp read
          exact absurd (each '+' List.mem_cons_self) (by decide)
        · obtain rfl : rest = digits := List.tail_eq_of_cons_eq split
          exact ⟨read, bounds⟩
    next chars unsigned =>
      constructor
      · rintro ⟨read, bounds⟩
        exact ⟨[], (trim text).toList, (List.nil_append _).symm, .inl rfl, read, bounds⟩
      · rintro ⟨sign, digits, split, rfl | rfl, read, bounds⟩
        · rw [split]
          exact ⟨read, bounds⟩
        · exact absurd split (unsigned digits)
  rw [read]
  constructor
  next =>
    rintro ⟨sign, digits, split, signed, read, bounds⟩
    obtain ⟨filled, each, value⟩ := readDecimal?_eq_some_iff.mp read
    exact ⟨sign, digits, split ▸ padded_trim text, signed, filled, each, value, bounds⟩
  next =>
    rintro ⟨sign, digits, padded, signed, filled, each, value, bounds⟩
    have solid : ∀ c ∈ sign ++ digits, isBlank c = false := by
      rw [List.forall_mem_append]
      refine ⟨?_, fun c member => isBlank_of_isDigit (each c member)⟩
      rcases signed with rfl | rfl
      · exact List.forall_mem_nil _
      · exact List.forall_mem_singleton.mpr (by decide)
    exact ⟨sign, digits, toList_trim_of_padded padded (by simp [filled]) solid, signed,
      readDecimal?_eq_some_iff.mpr ⟨filled, each, value⟩, bounds⟩

theorem ofName?_eq_some_iff {text : String} {preset : Preset} :
    Preset.ofName? text = some preset ↔ NamesPreset text preset := by
  have named : trim text = preset.name ↔ NamesPreset text preset := by
    cases preset <;> exact trim_eq_iff (by decide) (by decide)
  rw [← named, Preset.ofName?]
  constructor
  next =>
    intro found
    have same := List.find?_some (p := fun preset : Preset => preset.name == trim text) found
    exact (beq_iff_eq.mp same).symm
  next =>
    intro same
    rw [same]
    cases preset <;> rfl

theorem readFormat?_eq_some_iff {text : String} {format : OutputFormat} :
    readFormat? text = some format ↔ NamesFormat text format := by
  rw [readFormat?]
  cases format with
  | text =>
    rw [NamesFormat, ← trim_eq_iff (by decide) (by decide)]
    split_ifs <;> simp_all
  | json =>
    rw [NamesFormat, ← trim_eq_iff (by decide) (by decide)]
    split_ifs <;> simp_all

inductive UrlFault (url : String) : String → Prop where
  | unread {fault : AddressFault} (read : Address.parse url = .error fault) :
      UrlFault url fault.message
  | scheme {address : Address} (read : Address.parse url = .ok address)
      (other : ¬Address.IsWeb address.scheme) :
      UrlFault url ("unsupported scheme " ++ quoted address.scheme)
  | host {address : Address} (read : Address.parse url = .ok address)
      (web : Address.IsWeb address.scheme) (missing : address.hasHost = false) :
      UrlFault url "missing host"

def IsServer (url : String) : Prop :=
  ∃ address, Address.parse url = .ok address ∧ Address.IsWeb address.scheme ∧ address.hasHost = true

theorem baseUrlFault?_eq_some_iff {url reason : String} :
    baseUrlFault? url = some reason ↔ UrlFault url reason := by
  constructor
  next =>
    intro refused
    unfold baseUrlFault? at refused
    split at refused
    next fault read =>
      obtain rfl := Option.some.inj refused
      exact .unread read
    next address read =>
      split_ifs at refused with other host
      · obtain rfl := Option.some.inj refused
        exact .scheme read (by simpa [Address.IsWeb] using other)
      · obtain rfl := Option.some.inj refused
        have web : Address.IsWeb address.scheme := by
          rw [Address.IsWeb]
          tauto
        exact .host read web (by simpa using host)
  next =>
    rintro (read | ⟨read, other⟩ | ⟨read, web, missing⟩)
    · simp [baseUrlFault?, read]
    · simp_all [baseUrlFault?, Address.IsWeb]
    · rcases web with web | web <;> simp [baseUrlFault?, read, web, missing]

theorem baseUrlFault?_eq_none_iff {url : String} : baseUrlFault? url = none ↔ IsServer url := by
  constructor
  next =>
    intro accepted
    obtain ⟨address, read, web⟩ := Address.parse_of_accepted accepted
    refine ⟨address, read, web, ?_⟩
    by_contra missing
    have refused := baseUrlFault?_eq_some_iff.mpr (.host read web (by simpa using missing))
    rw [accepted] at refused
    cases refused
  next =>
    rintro ⟨address, read, web, host⟩
    rcases web with web | web <;> simp [baseUrlFault?, read, web, host]

section Variables

variable {α : Type} {environment : String → Option String} {name : String}
  {read : String → Option α} {reads : String → α → Prop} {error : String → SettingsError}
  {fallback value : α} {fault : SettingsError}

def Told (environment : String → Option String) (name : String) (reads : String → α → Prop)
    (fallback value : α) : Prop :=
  environment name = none ∧ value = fallback ∨
    ∃ text, environment name = some text ∧ reads text value

def Unreadable (environment : String → Option String) (name : String) (reads : String → α → Prop)
    (error : String → SettingsError) (fault : SettingsError) : Prop :=
  ∃ text, environment name = some text ∧ (∀ value, ¬reads text value) ∧ fault = error text

theorem fromVariable_eq_ok_iff (spec : ∀ text value, read text = some value ↔ reads text value) :
    fromVariable environment name read error fallback = .ok value ↔
      Told environment name reads fallback value := by
  rw [fromVariable, Told]
  cases environment name with
  | none => simp [eq_comm]
  | some text =>
    cases answer : read text with
    | none => simp [← spec, answer]
    | some own => simp [← spec, answer]

theorem fromVariable_eq_error_iff (spec : ∀ text value, read text = some value ↔ reads text value) :
    fromVariable environment name read error fallback = .error fault ↔
      Unreadable environment name reads error fault := by
  rw [fromVariable, Unreadable]
  cases environment name with
  | none => simp
  | some text =>
    cases answer : read text with
    | none => simp [← spec, answer, eq_comm]
    | some own => simp [← spec, answer]

end Variables

inductive Stage where
  | extraArgument
  | baseUrl
  | contract
  | timeout
  | payloadLimit
  | format

def Stage.place : Stage → Nat
  | extraArgument => 0
  | baseUrl => 1
  | contract => 2
  | timeout => 3
  | payloadLimit => 4
  | format => 5

variable (arguments : List String) (environment : String → Option String)

def chosenUrl : String := arguments.head?.getD default.baseUrl

def Stage.Fails : Stage → SettingsError → Prop
  | extraArgument, fault => ∃ extra, arguments[1]? = some extra ∧ fault = .extraArgument extra
  | baseUrl, fault => ∃ reason, UrlFault (chosenUrl arguments) reason ∧
      fault = .baseUrl (chosenUrl arguments) reason
  | contract, fault => Unreadable environment contractVariable NamesPreset .contract fault
  | timeout, fault =>
    Unreadable environment timeoutVariable WritesPositive (.notPositive timeoutVariable) fault
  | payloadLimit, fault =>
    Unreadable environment payloadLimitVariable WritesPositive (.notPositive payloadLimitVariable)
      fault
  | format, fault => Unreadable environment formatVariable NamesFormat .format fault

def PassedBefore (place : Nat) : Prop :=
  ∀ stage : Stage, stage.place < place → ∀ fault, ¬stage.Fails arguments environment fault

structure Chosen (settings : Settings) : Prop where
  baseUrl : settings.baseUrl = chosenUrl arguments
  contract : Told environment contractVariable NamesPreset default.contract settings.contract
  timeout :
    Told environment timeoutVariable WritesPositive default.timeoutSeconds settings.timeoutSeconds
  payloadLimit :
    Told environment payloadLimitVariable WritesPositive default.payloadLimit settings.payloadLimit
  format : Told environment formatVariable NamesFormat default.format settings.format

/-- The first stage that fails decides; where none fails, every setting is what was told. -/
inductive Decides : Except SettingsError Settings → Prop where
  | refused (stage : Stage) {fault : SettingsError} (fails : stage.Fails arguments environment fault)
      (passed : PassedBefore arguments environment stage.place) :
      Decides (.error fault)
  | accepted {settings : Settings}
      (passed : ∀ (stage : Stage) (fault : SettingsError), ¬stage.Fails arguments environment fault)
      (chosen : Chosen arguments environment settings) :
      Decides (.ok settings)

variable {arguments environment}

theorem Stage.place_injective {first second : Stage} (same : first.place = second.place) :
    first = second := by
  cases first <;> cases second <;> simp_all [place]

theorem passedBefore_zero : PassedBefore arguments environment 0 :=
  fun _ before => absurd before (Nat.not_lt_zero _)

theorem PassedBefore.succ (stage : Stage) (passed : PassedBefore arguments environment stage.place)
    (own : ∀ fault, ¬stage.Fails arguments environment fault) :
    PassedBefore arguments environment (stage.place + 1) := by
  intro earlier before
  rcases Nat.lt_succ_iff_lt_or_eq.mp before with further | same
  · exact passed earlier further
  · exact Stage.place_injective same ▸ own

theorem Decides.of_variable {α : Type} {name : String} {read : String → Option α}
    {reads : String → α → Prop} {error : String → SettingsError} {fallback : α}
    {next : α → Except SettingsError Settings} (stage : Stage)
    (spec : ∀ text value, read text = some value ↔ reads text value)
    (fails : ∀ fault, stage.Fails arguments environment fault ↔
      Unreadable environment name reads error fault)
    (passed : PassedBefore arguments environment stage.place)
    (further : ∀ value, Told environment name reads fallback value →
      PassedBefore arguments environment (stage.place + 1) →
        Decides arguments environment (next value)) :
    Decides arguments environment (fromVariable environment name read error fallback >>= next) := by
  cases result : fromVariable environment name read error fallback with
  | error fault =>
    exact .refused stage ((fails fault).mpr ((fromVariable_eq_error_iff spec).mp result)) passed
  | ok value =>
    refine further value ((fromVariable_eq_ok_iff spec).mp result) (passed.succ stage ?_)
    intro fault refused
    have refused : fromVariable environment name read error fallback = .error fault :=
      (fromVariable_eq_error_iff spec).mpr ((fails fault).mp refused)
    rw [result] at refused
    cases refused

theorem decides_resolve : Decides arguments environment (resolve arguments environment) := by
  unfold resolve
  cases extra : arguments[1]? with
  | some text => exact .refused .extraArgument ⟨text, extra, rfl⟩ passedBefore_zero
  | none =>
    have passed : PassedBefore arguments environment Stage.baseUrl.place :=
      passedBefore_zero.succ .extraArgument (by simp [Stage.Fails, extra])
    cases url : baseUrlFault? (arguments.head?.getD default.baseUrl) with
    | some reason =>
      simp only [url]
      exact .refused .baseUrl ⟨reason, baseUrlFault?_eq_some_iff.mp url, rfl⟩ passed
    | none =>
      replace passed := passed.succ .baseUrl
        (by simp [Stage.Fails, ← baseUrlFault?_eq_some_iff, chosenUrl, url])
      simp only [url]
      refine .of_variable .contract (fun _ _ => ofName?_eq_some_iff) (fun _ => .rfl) passed ?_
      intro contract contractTold passed
      refine .of_variable .timeout (fun _ _ => readPositive?_eq_some_iff) (fun _ => .rfl) passed ?_
      intro timeout timeoutTold passed
      refine .of_variable .payloadLimit (fun _ _ => readPositive?_eq_some_iff) (fun _ => .rfl)
        passed ?_
      intro limit limitTold passed
      refine .of_variable .format (fun _ _ => readFormat?_eq_some_iff) (fun _ => .rfl) passed ?_
      intro format formatTold passed
      refine .accepted (fun stage => passed stage ?_)
        ⟨rfl, contractTold, timeoutTold, limitTold, formatTold⟩
      cases stage <;> decide

theorem Unreadable.unique {α : Type} {name : String} {reads : String → α → Prop}
    {error : String → SettingsError} {first second : SettingsError}
    (unread : Unreadable environment name reads error first)
    (alsoUnread : Unreadable environment name reads error second) : first = second := by
  obtain ⟨text, held, _, rfl⟩ := unread
  obtain ⟨other, alsoHeld, _, rfl⟩ := alsoUnread
  rw [Option.some.inj (held.symm.trans alsoHeld)]

theorem Stage.Fails.unique {stage : Stage} {first second : SettingsError}
    (fails : stage.Fails arguments environment first)
    (alsoFails : stage.Fails arguments environment second) : first = second := by
  cases stage with
  | extraArgument =>
    obtain ⟨extra, held, rfl⟩ := fails
    obtain ⟨other, alsoHeld, rfl⟩ := alsoFails
    rw [Option.some.inj (held.symm.trans alsoHeld)]
  | baseUrl =>
    obtain ⟨reason, refused, rfl⟩ := fails
    obtain ⟨other, alsoRefused, rfl⟩ := alsoFails
    rw [← baseUrlFault?_eq_some_iff] at refused alsoRefused
    rw [Option.some.inj (refused.symm.trans alsoRefused)]
  | contract => exact Unreadable.unique fails alsoFails
  | timeout => exact Unreadable.unique fails alsoFails
  | payloadLimit => exact Unreadable.unique fails alsoFails
  | format => exact Unreadable.unique fails alsoFails

theorem Told.unique {α : Type} {name : String} {read : String → Option α}
    {reads : String → α → Prop} {fallback first second : α}
    (spec : ∀ text value, read text = some value ↔ reads text value)
    (told : Told environment name reads fallback first)
    (alsoTold : Told environment name reads fallback second) : first = second := by
  have reading {value : α} (said : Told environment name reads fallback value) :
      fromVariable environment name read .format fallback = .ok value :=
    (fromVariable_eq_ok_iff spec).mpr said
  exact Except.ok.inj ((reading told).symm.trans (reading alsoTold))

theorem Chosen.unique {first second : Settings} (chosen : Chosen arguments environment first)
    (alsoChosen : Chosen arguments environment second) : first = second := by
  have url := chosen.baseUrl.trans alsoChosen.baseUrl.symm
  have contract := chosen.contract.unique (fun _ _ => ofName?_eq_some_iff) alsoChosen.contract
  have timeout := chosen.timeout.unique (fun _ _ => readPositive?_eq_some_iff) alsoChosen.timeout
  have limit :=
    chosen.payloadLimit.unique (fun _ _ => readPositive?_eq_some_iff) alsoChosen.payloadLimit
  have format := chosen.format.unique (fun _ _ => readFormat?_eq_some_iff) alsoChosen.format
  cases first
  cases second
  simp_all

theorem Decides.unique {first second : Except SettingsError Settings}
    (decides : Decides arguments environment first)
    (alsoDecides : Decides arguments environment second) : first = second := by
  rcases decides with ⟨stage, fails, passed⟩ | ⟨passed, chosen⟩ <;>
    rcases alsoDecides with ⟨other, otherFails, alsoPassed⟩ | ⟨alsoPassed, alsoChosen⟩
  · rcases Nat.lt_trichotomy stage.place other.place with before | same | behind
    · exact absurd fails (alsoPassed stage before _)
    · obtain rfl := Stage.place_injective same
      rw [fails.unique otherFails]
    · exact absurd otherFails (passed other behind _)
  · exact absurd fails (alsoPassed stage _)
  · exact absurd otherFails (passed other _)
  · rw [chosen.unique alsoChosen]

theorem resolve_eq_iff {result : Except SettingsError Settings} :
    resolve arguments environment = result ↔ Decides arguments environment result := by
  constructor
  · rintro rfl
    exact decides_resolve
  · exact decides_resolve.unique

theorem Told.positive {name : String} {fallback n : Nat} (usual : 0 < fallback)
    (told : Told environment name WritesPositive fallback n) : 0 < n := by
  rcases told with ⟨_, rfl⟩ | ⟨text, _, _, _, _, _, _, _, _, positive, _⟩
  · exact usual
  · exact positive

theorem resolve_congr {others : List String} {elsewhere : String → Option String}
    (front : arguments.take 2 = others.take 2)
    (same : ∀ name ∈ [contractVariable, timeoutVariable, payloadLimitVariable, formatVariable],
      environment name = elsewhere name) :
    resolve arguments environment = resolve others elsewhere := by
  have head : arguments.head? = others.head? := by
    simpa [List.head?_take] using congrArg List.head? front
  have second : arguments[1]? = others[1]? := by
    rw [← List.getElem?_take_of_lt Nat.one_lt_two, front, List.getElem?_take_of_lt Nat.one_lt_two]
  simp only [List.forall_mem_cons] at same
  obtain ⟨contract, timeout, limit, format, _⟩ := same
  simp only [resolve, fromVariable, head, second, contract, timeout, limit, format]

/-- Arguments and environment decide by the first stage that fails, accepted settings can be used,
and nothing but the first two arguments and the four variables counts. -/
theorem resolve_by_first_failure (arguments : List String) (environment : String → Option String) :
    (∀ result, resolve arguments environment = result ↔ Decides arguments environment result) ∧
    (∀ settings, resolve arguments environment = .ok settings →
      1 ≤ settings.timeoutSeconds ∧ 1 ≤ settings.payloadLimit ∧ IsServer settings.baseUrl) ∧
    ∀ (others : List String) (elsewhere : String → Option String),
      arguments.take 2 = others.take 2 →
      (∀ name ∈ [contractVariable, timeoutVariable, payloadLimitVariable, formatVariable],
        environment name = elsewhere name) →
      resolve arguments environment = resolve others elsewhere := by
  refine ⟨fun _ => resolve_eq_iff, ?_, fun _ _ => resolve_congr⟩
  intro settings resolved
  obtain _ | ⟨_, chosen⟩ := resolve_eq_iff.mp resolved
  exact ⟨chosen.timeout.positive (by decide), chosen.payloadLimit.positive (by decide),
    baseUrlFault?_eq_none_iff.mp (baseUrlFault?_of_resolve resolved)⟩

def paddedLimit (name : String) : Option String :=
  if name = payloadLimitVariable then some "\t+00512 " else none

theorem resolve_paddedLimit :
    resolve [localServer] paddedLimit = .ok { default with payloadLimit := 512 } := by
  decide +kernel

theorem resolve_of_paddedLimit :
    1 ≤ { default with payloadLimit := 512 : Settings }.payloadLimit ∧ IsServer localServer ∧
      resolve [localServer] (fun name => if name = "HOME" then some "/" else paddedLimit name) =
        .ok { default with payloadLimit := 512 } := by
  obtain ⟨_, usable, only⟩ := resolve_by_first_failure [localServer] paddedLimit
  obtain ⟨_, limit, server⟩ := usable _ resolve_paddedLimit
  refine ⟨limit, server, ?_⟩
  rw [← only _ _ rfl (by decide), resolve_paddedLimit]

end Settings

end OrdersContract
