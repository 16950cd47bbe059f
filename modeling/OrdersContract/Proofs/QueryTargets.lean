import OrdersContract.Proofs.FormTexts
import OrdersContract.Proofs.Targets

set_option autoImplicit false

namespace OrdersContract

open Text

namespace Address

theorem credentials_subset {special : Bool} {chars rest : List Char} {user : Credentials}
    (read : credentials special chars = .ok (user, rest)) : rest ⊆ chars := by
  simp only [credentials] at read
  split at read
  next =>
    split at read
    next => cases read
    next =>
      obtain ⟨_, rfl⟩ := Prod.mk.inj (Except.ok.inj read)
      exact List.drop_subset _ _
  next =>
    obtain ⟨_, rfl⟩ := Prod.mk.inj (Except.ok.inj read)
    exact List.Subset.refl _

theorem port_subset {kind : SchemeKind} {chars rest : List Char} {value : Option Nat}
    (read : port kind chars = .ok (value, rest)) : rest ⊆ chars := by
  simp only [port] at read
  split at read
  next => cases read
  next =>
    split at read
    next =>
      obtain ⟨_, rfl⟩ := Prod.mk.inj (Except.ok.inj read)
      exact List.drop_subset _ _
    next => cases read

def afterHost (kind : SchemeKind) (behind : List Char) (host : Option Host) :
    Except AddressFault (Option Host × Option Nat × List Char) :=
  match behind with
  | ':' :: rest =>
    if host.isNone then .error .emptyHost
    else do
      let (port, rest) ← port kind rest
      .ok (host, port, rest)
  | rest => .ok (host, none, rest)

theorem exists_host_of_hostAndPort {kind : SchemeKind} {chars : List Char}
    {result : Option Host × Option Nat × List Char} (read : hostAndPort kind chars = .ok result) :
    ∃ host, afterHost kind (chars.drop (hostLength kind.isSpecial false chars)) host =
      .ok result := by
  simp only [hostAndPort] at read
  split at read
  next =>
    split at read
    next => cases read
    next =>
      obtain ⟨host, _, read⟩ := exists_of_bind_eq_ok read
      exact ⟨host, read⟩
  next =>
    obtain ⟨host, _, read⟩ := exists_of_bind_eq_ok read
    exact ⟨host, read⟩

theorem hostAndPort_subset {kind : SchemeKind} {chars rest : List Char} {host : Option Host}
    {value : Option Nat} (read : hostAndPort kind chars = .ok (host, value, rest)) :
    rest ⊆ chars := by
  have inside := List.drop_subset (hostLength kind.isSpecial false chars) chars
  obtain ⟨found, read⟩ := exists_host_of_hostAndPort read
  refine List.Subset.trans ?_ inside
  unfold afterHost at read
  split at read
  next behind colon =>
    rw [colon]
    split at read
    next => cases read
    next =>
      obtain ⟨⟨_, left⟩, ported, read⟩ := exists_of_bind_eq_ok read
      simp only [Except.ok.injEq, Prod.mk.injEq] at read
      obtain ⟨_, _, rfl⟩ := read
      exact List.subset_cons_of_subset _ (port_subset ported)
  next =>
    simp only [Except.ok.injEq, Prod.mk.injEq] at read
    obtain ⟨_, _, rfl⟩ := read
    exact List.Subset.refl _

theorem fileHost_subset {chars rest : List Char} {host : Option Host}
    (read : fileHost chars = .ok (host, rest)) : rest ⊆ chars := by
  simp only [fileHost] at read
  split at read
  next =>
    obtain ⟨_, rfl⟩ := Prod.mk.inj (Except.ok.inj read)
    exact List.Subset.refl _
  next =>
    cases named : domainHost (kept (chars.takeWhile fun c => !endsAuthority true c)) with
    | error fault => simp [named, Except.map] at read
    | ok name =>
      simp only [named, Except.map, Except.ok.injEq, Prod.mk.injEq] at read
      obtain ⟨_, rfl⟩ := read
      exact List.dropWhile_subset _

theorem afterSlash?_subset {chars rest : List Char} (found : afterSlash? chars = some rest) :
    rest ⊆ chars := by
  have inside := List.dropWhile_subset isSkipped (l := chars)
  unfold afterSlash? at found
  split at found
  next => cases found
  next c behind stopped =>
    obtain ⟨_, same⟩ := Option.ite_none_right_eq_some.mp found
    obtain rfl := Option.some.inj same
    rw [stopped] at inside
    exact List.subset_of_cons_subset inside

def Unqueried (chars : List Char) : Prop := ∀ c ∈ chars, startsQuery c = false

theorem Unqueried.mono {chars inside : List Char} (plain : Unqueried chars)
    (within : inside ⊆ chars) : Unqueried inside := fun c member => plain c (within member)

theorem withAuthority_endsInPath {scheme : String} {kind : SchemeKind} {chars : List Char}
    {address : Address} (plain : Unqueried chars)
    (read : withAuthority scheme kind chars = .ok address) : address.EndsInPath := by
  unfold withAuthority at read
  obtain ⟨⟨user, behind⟩, credited, read⟩ := exists_of_bind_eq_ok read
  obtain ⟨⟨host, port, rest⟩, hosted, read⟩ := exists_of_bind_eq_ok read
  have left : Unqueried rest := plain.mono
    (List.Subset.trans (hostAndPort_subset hosted) (credentials_subset credited))
  simp only [untilQuery_of_plain left] at read
  split at read
  next => cases read
  next =>
    obtain rfl := Except.ok.inj read
    exact ⟨rfl, rfl⟩

theorem file_endsInPath {chars : List Char} {address : Address} (plain : Unqueried chars)
    (read : file chars = .ok address) : address.EndsInPath := by
  unfold file at read
  split at read
  next rest slashes =>
    obtain ⟨behind, first, second⟩ := Option.bind_eq_some_iff.mp slashes
    cases hosted : fileHost rest with
    | error fault => simp [hosted, Except.map] at read
    | ok result =>
      have behindSlashes := List.Subset.trans (afterSlash?_subset second) (afterSlash?_subset first)
      have left : Unqueried result.2 :=
        plain.mono (List.Subset.trans (fileHost_subset hosted) behindSlashes)
      simp only [hosted, Except.map, untilQuery_of_plain left, Except.ok.injEq] at read
      obtain rfl := read
      exact ⟨rfl, rfl⟩
  next =>
    simp only [untilQuery_of_plain plain, Except.ok.injEq] at read
    obtain rfl := read
    exact ⟨rfl, rfl⟩

theorem scheme?_subset {chars rest : List Char} {scheme : String}
    (read : scheme? chars = some (scheme, rest)) : rest ⊆ chars := by
  obtain ⟨name, rfl, _⟩ := scheme?_eq_some_iff.mp read
  exact List.subset_append_of_subset_right _ (List.subset_cons_self _ _)

theorem withoutMargin_subset (text : String) : withoutMargin text ⊆ text.toList := by
  obtain ⟨tail, split, _⟩ := exists_dropEndWhile isMargin (text.toList.dropWhile isMargin)
  have front : withoutMargin text ⊆ text.toList.dropWhile isMargin := by
    rw [split]
    exact List.subset_append_left _ _
  exact List.Subset.trans front (List.dropWhile_subset _)

theorem parse_endsInPath {text : String} {address : Address} (plain : Unqueried text.toList)
    (read : parse text = .ok address) : address.EndsInPath := by
  have inside := plain.mono (withoutMargin_subset text)
  simp only [parse] at read
  split at read
  next => cases read
  next scheme rest named =>
    have behind : Unqueried rest :=
      inside.mono (List.Subset.trans (scheme?_subset named) List.filter_sublist.subset)
    split at read
    next =>
      apply file_endsInPath (inside.mono _) read
      exact List.Subset.trans (List.drop_subset _ _) (List.dropWhile_subset _)
    next => exact withAuthority_endsInPath (behind.mono (List.dropWhile_subset _)) read
    next =>
      split at read
      next rest => exact withAuthority_endsInPath (behind.mono (by simp)) read
      next =>
        obtain rfl := Except.ok.inj read
        simp only [withoutAuthority, untilQuery_of_plain behind]
        exact ⟨rfl, rfl⟩

theorem text_withQuery {address : Address} (ends : address.EndsInPath) {query : Query}
    (asked : query ≠ []) :
    (address.withQuery query).text = address.text ++ "?" ++ .ofList query.chars := by
  have filled : query.isEmpty = false := by simpa using asked
  simp [withQuery, filled, text, beforePath, ends.1, ends.2, String.append_assoc]

theorem ofList_chars_inj {query other : Query}
    (same : String.ofList query.chars = .ofList other.chars) : query = other := by
  have read := congrArg Query.ofText? same
  rwa [Query.ofText?_chars, Query.ofText?_chars, Option.some.injEq] at read

theorem text_withQuery_injective {address : Address} (ends : address.EndsInPath) :
    Function.Injective fun query => (address.withQuery query).text := by
  have longer {query : Query} (asked : query ≠ []) :
      (address.withQuery query).text ≠ address.text := by
    intro same
    have lengths := congrArg String.length same
    rw [text_withQuery ends asked, String.length_append, String.length_append] at lengths
    have mark : "?".length = 1 := rfl
    omega
  intro query other same
  by_cases asked : query = [] <;> by_cases others : other = []
  · rw [asked, others]
  · subst asked
    exact absurd same.symm (longer others)
  · subst others
    exact absurd same (longer asked)
  · simp only [text_withQuery ends asked, text_withQuery ends others] at same
    exact ofList_chars_inj (String.append_right_inj _ |>.mp same)

theorem joinedText_subset (base path : String) :
    (joinedText base path).toList ⊆ base.toList ++ path.toList := by
  obtain ⟨slashes, split, _⟩ := exists_slashes base.toList
  intro c member
  rw [joinedText_toList, List.mem_append] at member
  rw [List.mem_append]
  refine member.imp_left fun own => ?_
  rw [split]
  exact List.mem_append_left _ own

/--
The target without a query is the address of the endpoint. With one, a question mark and a text in
a few ASCII characters follow, which is read as a form to exactly the pairs that were asked for.
-/
theorem target_of_query {base path : String} {address : Address}
    (plain : ∀ c ∈ base.toList ++ path.toList, c ≠ '?' ∧ c ≠ '#')
    (reached : endpoint base path = .ok address) :
    (address.withQuery []).text = address.text ∧
      (∀ query : Query, query ≠ [] → ∃ written : String,
        (address.withQuery query).text = address.text ++ "?" ++ written ∧
        (∀ c ∈ written.toList,
          c.isAlphanum = true ∨ c ∈ ['*', '-', '.', '_', '+', '%', '=', '&']) ∧
        Query.ofText? written = some query) ∧
      Function.Injective fun query => (address.withQuery query).text := by
  have unqueried : Unqueried (joinedText base path).toList := by
    intro c member
    have apart := plain c (joinedText_subset base path member)
    simp [startsQuery, apart.1, apart.2]
  have ends := parse_endsInPath unqueried ((endpoint_eq_ok_iff _ _ _).mp reached)
  refine ⟨rfl, fun query asked => ?_, text_withQuery_injective ends⟩
  refine ⟨_, text_withQuery ends asked, fun c member => ?_, Query.ofText?_chars query⟩
  rw [String.toList_ofList] at member
  have listed : ∀ c ∈ Query.componentMarks ++ ['=', '&'],
      c ∈ ['*', '-', '.', '_', '+', '%', '=', '&'] := fun c member => member
  rcases Query.mem_chars member with (letter | mark) | rfl | rfl
  · exact .inl letter
  · exact .inr (listed c (List.mem_append_left _ mark))
  · exact .inr (by decide)
  · exact .inr (by decide)

def oddQuery : Query := [("", ""), ("a&b", "1+1 =2"), ("a&b", "100% é"), ("c", "")]

theorem localServer_target_of_oddQuery :
    (∀ c ∈ Settings.localServer.toList ++ Contract.ordersPath.toList, c ≠ '?' ∧ c ≠ '#') ∧
      oddQuery ≠ [] ∧
      ∃ address, endpoint Settings.localServer Contract.ordersPath = .ok address ∧
        (address.withQuery []).text = "http://localhost:8080/dashboard/orders" ∧
        (address.withQuery oddQuery).text = "http://localhost:8080/dashboard/orders?" ++
          "=&a%26b=1%2B1+%3D2&a%26b=100%25+%C3%A9&c=" ∧
        ∃ written, (address.withQuery oddQuery).text = address.text ++ "?" ++ written ∧
          Query.ofText? written = some oddQuery := by
  have plain : ∀ c ∈ Settings.localServer.toList ++ Contract.ordersPath.toList,
      c ≠ '?' ∧ c ≠ '#' := by
    have all : (Settings.localServer.toList ++ Contract.ordersPath.toList).all
        (fun c => c != '?' && c != '#') = true := by
      decide +kernel
    simpa only [List.all_eq_true, Bool.and_eq_true, bne_iff_ne] using all
  have reached : endpoint Settings.localServer Contract.ordersPath = .ok
      { nestedBase with path := Contract.ordersPath } := by
    decide +kernel
  have asked : oddQuery ≠ [] := List.cons_ne_nil _ _
  obtain ⟨_, targets, _⟩ := target_of_query plain reached
  obtain ⟨written, target, _, read⟩ := targets oddQuery asked
  exact ⟨plain, asked, _, reached, by decide +kernel, by decide +kernel, written, target, read⟩

end Address

end OrdersContract
