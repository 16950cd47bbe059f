import OrdersContract.Proofs.FilledLabels
import OrdersContract.Proofs.StoredReports

set_option autoImplicit false

namespace OrdersContract

open Json Text

def Json.Numeric.whole? : Numeric → Option Nat
  | .integer n => n.val.toNat?
  | .double d =>
    if d.isIntegral && decide (.zero ≤ d) then some (d.magnitude / Number.Double.one) else none

inductive Schema where
  | text (minLength : Nat)
  | textIn (allowed : List String)
  | boolean
  | natural
  | naturalIn (allowed : List Nat)
  | array (item : Schema)
  /-- An object that is closed has no other members than those described. -/
  | object (required : List String) (closed : Bool) (properties : List (String × Schema))

namespace Schema

mutual

def accepts : Schema → Value → Bool
  | text minLength, value => value.string?.any fun s => minLength ≤ s.length
  | textIn allowed, value => value.string?.any allowed.contains
  | boolean, value => value.bool?.isSome
  | natural, .number n => n.whole?.isSome
  | naturalIn allowed, .number n => n.whole?.any allowed.contains
  | array item, value => value.items?.any fun items => items.all item.accepts
  | object required closed properties, .object members =>
    required.all (fun name => (members.lookup name).isSome) &&
      members.all fun member => acceptsMember closed properties member
  | _, _ => false
  termination_by structural schema => schema

def acceptsMember (closed : Bool) : List (String × Schema) → String × Value → Bool
  | [], _ => !closed
  | property :: rest, member =>
    if property.1 = member.1 then acceptsProperty property member.2
    else acceptsMember closed rest member
  termination_by structural properties => properties

def acceptsProperty : String × Schema → Value → Bool
  | (_, schema), value => schema.accepts value
  termination_by structural property => property

end

def outcome : Schema :=
  .object ["label", "passed"] true [("label", .text 1), ("passed", .boolean), ("detail", .text 0)]

def report : Schema :=
  .object ["outcomes", "pass_count", "fail_count"] true
    [("pass_count", .natural), ("fail_count", .natural), ("outcomes", .array outcome)]

def scenario : Schema :=
  .object ["name", "target", "report"] true
    [("name", .text 1), ("target", .text 0), ("report", report)]

def abort : Schema :=
  .object ["kind", "target", "message"] false
    [("kind", .textIn ["transport", "parse"]), ("target", .text 0), ("message", .text 0)]

def session : Schema :=
  .object ["contract", "scenarios", "pass_count", "fail_count", "exit_code"] true
    [("contract", .textIn ["minor-units", "major-units"]), ("pass_count", .natural),
      ("fail_count", .natural), ("exit_code", .naturalIn [0, 1, 2]), ("abort", abort),
      ("scenarios", .array scenario)]

example : outcome.accepts (.object [("label", .string "l"), ("passed", .bool true),
    ("detail", .null)]) = false := by
  decide

theorem accepts_array_ordered {α : Type} {item : Schema} {write : α → Value} {items : List α}
    (each : ∀ element ∈ items, item.accepts (write element).ordered = true) :
    (array item).accepts (Value.array (items.map write)).ordered = true := by
  rw [Value.ordered_array, List.map_map, accepts]
  simpa [Value.items?] using each

theorem accepts_object_ordered {required : List String} {closed : Bool}
    {properties : List (String × Schema)} {members : List (String × Value)}
    (present : ∀ name ∈ required, name ∈ members.map Prod.fst)
    (each : ∀ member ∈ members,
      acceptsMember closed properties (member.1, member.2.ordered) = true) :
    (object required closed properties).accepts (Value.object members).ordered = true := by
  rw [Value.ordered, accepts, Bool.and_eq_true, List.all_eq_true, List.all_eq_true]
  constructor
  · intro name asked
    have read := Value.get?_ordered name members
    rw [Value.ordered, Value.get?] at read
    obtain ⟨member, listed, rfl⟩ := List.mem_map.mp (present name asked)
    have held : (members.reverse.lookup member.1).isSome = true := by
      rw [List.lookup_isSome_iff]
      exact ⟨member, List.mem_reverse.mpr listed, beq_self_eq_true _⟩
    rw [read, Option.isSome_map, held]
  · intro member kept
    have written := mem_of_mem_sortedMembers kept
    rw [Value.orderedMembers_eq_map] at written
    obtain ⟨member, listed, rfl⟩ := List.mem_map.mp written
    exact each member listed

theorem accepts_countValue {count : Nat} (small : count < 2 ^ 64) :
    natural.accepts (countValue count).ordered = true := by
  obtain ⟨n, exact, whole⟩ := SessionReport.countValue_of_lt small
  rw [whole, Value.ordered_number, accepts, Numeric.whole?, exact]
  rfl

theorem accepts_filled {s : String} (filled : s ≠ "") : (text 1).accepts (.string s) = true := by
  have chars : s.toList ≠ [] := fun empty => filled (String.toList_eq_nil_iff.mp empty)
  have length : 1 ≤ s.length := by
    rw [← String.length_toList]
    exact List.length_pos_of_ne_nil chars
  simp [accepts, Value.string?, length]

@[simp] theorem accepts_text (s : String) : (text 0).accepts (.string s) = true := by
  simp [accepts, Value.string?]

@[simp] theorem accepts_bool (b : Bool) : boolean.accepts (.bool b) = true := rfl

end Schema

theorem Outcome.accepted {outcome : Outcome} (labelled : outcome.label ≠ "") :
    Schema.outcome.accepts outcome.toValue.ordered = true := by
  have label := Schema.accepts_filled labelled
  apply Schema.accepts_object_ordered
  · simp
  · cases outcome.detail <;>
      simp [Schema.acceptsMember, Schema.acceptsProperty, label]

theorem ScenarioReport.accepted {scenario : ScenarioReport} (named : scenario.name ≠ "")
    (labelled : ∀ outcome ∈ scenario.report.outcomes, outcome.label ≠ "")
    (fits : scenario.report.Fits) :
    Schema.scenario.accepts scenario.toValue.ordered = true := by
  have outcomes := Schema.accepts_array_ordered fun outcome listed =>
    Outcome.accepted (labelled outcome listed)
  have name := Schema.accepts_filled named
  have report : Schema.report.accepts (Value.object
      [("outcomes", .array (scenario.report.outcomes.map Outcome.toValue)),
        ("pass_count", countValue scenario.report.passCount),
        ("fail_count", countValue scenario.report.failCount)]).ordered = true := by
    apply Schema.accepts_object_ordered
    · simp
    · simp [Schema.acceptsMember, Schema.acceptsProperty, outcomes,
        Schema.accepts_countValue fits.passes, Schema.accepts_countValue fits.fails,
        -Value.ordered_array]
  apply Schema.accepts_object_ordered
  · simp
  · simp [Schema.acceptsMember, Schema.acceptsProperty, name, report]

theorem Abort.accepted (abort : Abort) : Schema.abort.accepts abort.toValue.ordered = true := by
  have kind : (Schema.textIn ["transport", "parse"]).accepts (.string abort.kind.name) = true := by
    cases abort.kind <;> rfl
  apply Schema.accepts_object_ordered
  · simp
  · simp [Schema.acceptsMember, Schema.acceptsProperty, kind]

namespace SessionReport

theorem accepted {session : SessionReport} (labelled : session.Labelled)
    (passes : session.passCount < 2 ^ 64) (fails : session.failCount < 2 ^ 64) :
    Schema.session.accepts session.toValue.ordered = true := by
  have fits := fits_of_mem passes fails
  have scenarios := Schema.accepts_array_ordered fun scenario listed =>
    ScenarioReport.accepted (labelled.names scenario listed) (labelled.labels scenario listed)
      (fits scenario listed)
  have contract : (Schema.textIn ["minor-units", "major-units"]).accepts (.string session.contract) =
      true := by
    obtain ⟨preset, same⟩ := labelled.contract
    rw [same]
    cases preset <;> rfl
  have code : (Schema.naturalIn [0, 1, 2]).accepts (countValue session.exitStatus.code).ordered =
      true := by
    cases session.exitStatus <;> rfl
  apply Schema.accepts_object_ordered
  · simp
  · cases session.abort <;>
      simp [Schema.acceptsMember, Schema.acceptsProperty, contract, scenarios, code, Abort.accepted,
        Schema.accepts_countValue passes, Schema.accepts_countValue fails, -Value.ordered_array]

end SessionReport

/-- Whatever a fetcher answers, the JSON document of the session of a preset has the form of a
report, and is that of this session. -/
theorem Preset.run_accepted (preset : Preset) (payloadLimit : Nat) {σ : Type} (fetcher : Fetcher σ)
    (state : σ) :
    let session := (Session.run preset.name fetcher (preset.scenarios payloadLimit) state).1
    -- Counts of outcomes in memory fit a word.
    session.outcomes.length < 2 ^ 64 →
    ∃ value, Json.parse (Utf8.encode session.renderJson.toList) = .ok value ∧
      Schema.session.accepts value = true ∧ SessionReport.ofValue? value = some session := by
  intro session small
  have counted : session.Counted := Session.run_counted _ fetcher _ state
  have total := session.counts_add counted
  have passes : session.passCount < 2 ^ 64 := by omega
  have fails : session.failCount < 2 ^ 64 := by omega
  have labelled : session.Labelled := preset.run_labelled payloadLimit fetcher state
  have stored := SessionReport.ofValue?_ordered (session.fits_of_mem passes fails)
  exact ⟨_, session.parse_renderJson passes fails, session.accepted labelled passes fails, stored⟩

-- The first response is an empty object, then there is none.
theorem majorUnits_report_of_lost_connection :
    let fetcher : Fetcher Bool :=
      { target := fun _ _ => "http://localhost/"
        fetch := fun _ lost =>
          (if lost then .error (.connect "refused") else .ok ⟨200, none, [0x7b, 0x7d]⟩, true)
        issued := fun _ => 0 }
    let session :=
      (Session.run Preset.majorUnits.name fetcher (Preset.majorUnits.scenarios 0) false).1
    session.scenarios.length = 1 ∧ session.abort.map Abort.kind = some .transport ∧
      session.outcomes.length < 2 ^ 64 ∧
      ∃ value, Json.parse (Utf8.encode session.renderJson.toList) = .ok value ∧
        Schema.session.accepts value = true ∧ SessionReport.ofValue? value = some session := by
  intro fetcher session
  have one : session.scenarios.length = 1 := by decide +kernel
  have stopped : session.abort.map Abort.kind = some .transport := by decide +kernel
  have small : session.outcomes.length < 2 ^ 64 := by decide +kernel
  exact ⟨one, stopped, small, Preset.run_accepted .majorUnits 0 fetcher false small⟩

end OrdersContract
