import OrdersContract.Address.Query
import OrdersContract.Proofs.Endpoints
import OrdersContract.Proofs.Trails

/-!
The target of a check is read from the base address with the endpoint's path behind it. Where the
base ends in its path, the endpoint goes on with that path; where the base has a query or a
fragment, the endpoint goes on with the query or the fragment and the path is the base's own.
-/

set_option autoImplicit false

namespace OrdersContract.Address

open Text

def unrooted (chars : List Char) : List Char :=
  match chars with
  | [] => []
  | c :: rest => if isSlash c then rest else c :: rest

theorem unrooted_append {chars : List Char} (filled : chars ≠ []) (more : List Char) :
    unrooted (chars ++ more) = unrooted chars ++ more := by
  cases chars with
  | nil => exact absurd rfl filled
  | cons c rest => by_cases slash : isSlash c = true <;> simp [unrooted, slash]

theorem pathAfterAuthority_path (defaultPort : Nat) (chars : List Char) :
    (pathAfterAuthority (.web defaultPort) chars).path = pathOf (unrooted chars) := by
  have special : (SchemeKind.web defaultPort).isSpecial = true := rfl
  have web : (SchemeKind.web defaultPort == .file) = false := rfl
  simp only [pathAfterAuthority, special, if_true, web]
  split
  next => rfl
  next => rfl
  next noSlash noBackslash =>
    cases chars with
    | nil => rfl
    | cons c rest =>
      have other : isSlash c = false := by
        rw [Bool.eq_false_iff, Ne, isSlash, Bool.or_eq_true, beq_iff_eq, beq_iff_eq]
        rintro (rfl | rfl)
        · exact noSlash rest rfl
        · exact noBackslash rest rfl
      simp [unrooted, other, pathOf]

/-- The path of the base is continued as it should be, unless something stands between the base and
the endpoint: a space, or an empty segment. -/
theorem pathOf_unrooted_iff {tail margin : List Char} (slashes : Nat)
    (apart : tail = [] → margin = [])
    (inside : ∀ c ∈ margin, isMargin c = true ∧ isSkipped c = false) :
    pathOf (unrooted (tail ++ (margin ++ Contract.ordersPath.toList))) =
        withoutSlashes (pathOf (unrooted (tail ++ List.replicate slashes '/'))) ++
          Contract.ordersPath.toList ↔
      margin = [] ∧ ¬['/', '/'] <:+ pathOf (unrooted (tail ++ (margin ++ ['/']))) := by
  by_cases bare : tail = []
  next =>
    obtain rfl := apart bare
    have root : withoutSlashes (pathOf (unrooted (List.replicate slashes '/'))) = [] := by
      cases slashes with
      | zero => decide +kernel
      | succ slashes =>
        have same := withoutSlashes_pathOf [] slashes
        rw [List.nil_append] at same
        simp only [List.replicate_succ, unrooted, isSlash, beq_self_eq_true, Bool.true_or, if_true]
        rw [same]
        decide +kernel
    simp only [bare, List.nil_append, root, true_and]
    exact iff_of_true (by decide +kernel) (by decide +kernel)
  next =>
    have shape : Contract.ordersPath.toList = ['/'] ++ Contract.ordersPath.toList.tail := by
      decide +kernel
    have cut (front : List Char) : front ++ Contract.ordersPath.toList =
        front ++ ['/'] ++ Contract.ordersPath.toList.tail := by
      rw [List.append_assoc, ← shape]
    have slash := withoutSlashes_pathOf (unrooted tail) 0
    rw [List.replicate_zero, List.append_nil] at slash
    rw [unrooted_append bare, unrooted_append bare, unrooted_append bare, withoutSlashes_pathOf,
      ← List.append_assoc, ← List.append_assoc, pathOf_ordersPath, cut (withoutSlashes _),
      List.append_cancel_right_eq]
    by_cases empty : margin = []
    next =>
      subst empty
      rw [List.append_nil]
      simpa using eq_withoutSlashes_append_iff (pathOf_slash_getLast? (unrooted tail))
    next =>
      rw [← slash]
      exact iff_of_false (pathOf_margin empty inside) fun both => empty both.1

theorem untilQuery_of_plain {chars : List Char} (plain : ∀ c ∈ chars, startsQuery c = false) :
    untilQuery chars = (chars, []) := by
  rw [untilQuery, List.takeWhile_eq_self_iff.mpr, List.dropWhile_eq_nil_iff.mpr]
  · exact fun c member => by simp [plain c member]
  · exact fun c member => by simp [plain c member]

theorem untilQuery_append {chars : List Char} (queried : ∃ c ∈ chars, startsQuery c = true)
    (more : List Char) :
    untilQuery (chars ++ more) = ((untilQuery chars).1, (untilQuery chars).2 ++ more) := by
  obtain ⟨c, member, starts⟩ := queried
  have left : chars.dropWhile (fun c => !startsQuery c) ≠ [] := by
    intro empty
    have stays := List.dropWhile_eq_nil_iff.mp empty c member
    simp [starts] at stays
  have short : (chars.takeWhile fun c => !startsQuery c).length ≠ chars.length := by
    intro same
    have lengths := congrArg List.length
      (List.takeWhile_append_dropWhile (p := fun c => !startsQuery c) (l := chars))
    rw [List.length_append, same] at lengths
    exact left (List.length_eq_zero_iff.mp (by omega))
  have more_left : ¬(chars.dropWhile fun c => !startsQuery c).isEmpty = true := by
    rwa [List.isEmpty_iff]
  rw [untilQuery, List.takeWhile_append, if_neg short, List.dropWhile_append, if_neg more_left]
  rfl

theorem encode_of_plain {encoded : Char → Bool} {chars : List Char}
    (plain : ∀ c ∈ chars, encoded c = false) : encode encoded chars = chars := by
  induction chars with
  | nil => rfl
  | cons c rest ih =>
    have others := ih fun c member => plain c (List.mem_cons_of_mem _ member)
    rw [encode] at others
    rw [encode, List.flatMap_cons, others, if_neg (by simp [plain c]), List.singleton_append]

def ShownBehindPath (chars : List Char) : Prop :=
  ∀ c ∈ chars, inSpecialQuerySet c = false ∧ inFragmentSet c = false

theorem queryAndFragment_append {chars more : List Char}
    (starts : ∃ c ∈ chars.head?, startsQuery c = true) (shown : ShownBehindPath more) :
    ∃ front, (queryAndFragment true (chars ++ more)).2.or (queryAndFragment true (chars ++ more)).1 =
      some (front ++ .ofList more) := by
  obtain ⟨c, head, starts⟩ := starts
  obtain ⟨rest, rfl⟩ := List.head?_eq_some_iff.mp head
  have inQuery := encode_of_plain fun c member => (shown c member).1
  have inFragment := encode_of_plain fun c member => (shown c member).2
  simp only [startsQuery, Bool.or_eq_true, beq_iff_eq] at starts
  rcases starts with rfl | rfl
  case inl =>
    have absent : '#' ∉ more := fun member => absurd (shown '#' member).1 (by decide)
    have cut := cut?_append_of_not_mem absent rest
    cases found : cut? '#' rest with
    | some parts =>
      obtain ⟨query, fragment⟩ := parts
      refine ⟨.ofList (encode inFragmentSet fragment), ?_⟩
      simp [queryAndFragment, cut, found, encode_append, inFragment]
    | none =>
      refine ⟨.ofList (encode inSpecialQuerySet rest), ?_⟩
      simp [queryAndFragment, cut, found, encode_append, inQuery]
  case inr =>
    refine ⟨.ofList (encode inFragmentSet rest), ?_⟩
    simp [queryAndFragment, encode_append, inFragment]

def EndsInPath (address : Address) : Prop := address.query = none ∧ address.fragment = none

theorem shownBehindPath_ordersPath : ShownBehindPath Contract.ordersPath.toList := by
  have shown : Contract.ordersPath.toList.any
      (fun c => inSpecialQuerySet c || inFragmentSet c) = false := by
    decide +kernel
  rw [List.any_eq_false] at shown
  intro c member
  simpa using shown c member

theorem append_ordersPath_ne (path : List Char) :
    withoutSlashes path ++ Contract.ordersPath.toList ≠ path := by
  obtain ⟨slashes, split, _⟩ := exists_slashes path
  intro same
  conv_rhs at same => rw [split]
  have slash : ∀ c ∈ Contract.ordersPath.toList, c = '/' := by
    rw [List.append_cancel_left same]
    exact fun c member => List.eq_of_mem_replicate member
  exact absurd (slash 'd' (by decide +kernel)) (by decide)

theorem startsQuery_of_margin {c : Char} (margin : isMargin c = true) : startsQuery c = false := by
  rw [Bool.eq_false_iff, Ne, startsQuery, Bool.or_eq_true, beq_iff_eq, beq_iff_eq]
  rintro (rfl | rfl) <;> exact absurd margin (by decide)

section Assembled

variable (scheme : String) (defaultPort : Nat) (authority : Authority) {chars : List Char}

theorem assembled_of_plain (plain : ∀ c ∈ chars, startsQuery c = false) :
    (assembled scheme (.web defaultPort) chars authority).EndsInPath ∧
      (assembled scheme (.web defaultPort) chars authority).path =
        .ofList (pathOf (unrooted chars)) := by
  simp only [assembled, EndsInPath, untilQuery_of_plain plain, pathAfterAuthority_path]
  simp [queryAndFragment]

theorem untilQuery_starts (queried : ∃ c ∈ chars, startsQuery c = true) :
    ∃ c ∈ (untilQuery chars).2.head?, startsQuery c = true := by
  obtain ⟨c, member, starts⟩ := queried
  cases behind : (untilQuery chars).2 with
  | nil =>
    have stays := List.dropWhile_eq_nil_iff.mp behind c member
    simp [starts] at stays
  | cons first rest =>
    have stop := List.head?_dropWhile_not (fun c => !startsQuery c) chars
    simp only [untilQuery] at behind
    rw [behind] at stop
    exact ⟨first, rfl, by simpa using stop⟩

theorem assembled_path_append (queried : ∃ c ∈ chars, startsQuery c = true) (more : List Char) :
    (assembled scheme (.web defaultPort) (chars ++ more) authority).path =
      (assembled scheme (.web defaultPort) chars authority).path := by
  simp only [assembled, untilQuery_append queried]

theorem assembled_append (queried : ∃ c ∈ chars, startsQuery c = true) {more : List Char}
    (shown : ShownBehindPath more) :
    ∃ front, (assembled scheme (.web defaultPort) (chars ++ more) authority).fragment.or
      (assembled scheme (.web defaultPort) (chars ++ more) authority).query =
        some (front ++ .ofList more) := by
  simp only [assembled, untilQuery_append queried]
  exact queryAndFragment_append (untilQuery_starts queried) shown

theorem not_endsInPath (queried : ∃ c ∈ chars, startsQuery c = true) (more : List Char) :
    ¬(assembled scheme (.web defaultPort) (chars ++ more) authority).EndsInPath := by
  have within : ∃ c ∈ chars ++ more, startsQuery c = true := by
    obtain ⟨c, member, starts⟩ := queried
    exact ⟨c, List.mem_append_left _ member, starts⟩
  obtain ⟨front, shown⟩ := assembled_append scheme defaultPort authority within
    (List.forall_mem_nil _ : ShownBehindPath [])
  rw [List.append_nil] at shown
  rintro ⟨query, fragment⟩
  simp [query, fragment] at shown

variable {tail margin : List Char} (slashes : Nat)

theorem assembled_of_queried (queried : ∃ c ∈ tail, startsQuery c = true) :
    let base := assembled scheme (.web defaultPort) (tail ++ List.replicate slashes '/') authority
    let target := assembled scheme (.web defaultPort)
      (tail ++ (margin ++ Contract.ordersPath.toList)) authority
    ¬base.EndsInPath ∧ target.path = base.path ∧
      ∃ front, target.fragment.or target.query = some (front ++ Contract.ordersPath) := by
  have path (more : List Char) := assembled_path_append scheme defaultPort authority queried more
  have within : ∃ c ∈ tail ++ margin, startsQuery c = true := by
    obtain ⟨c, member, starts⟩ := queried
    exact ⟨c, List.mem_append_left _ member, starts⟩
  have shown := assembled_append scheme defaultPort authority within shownBehindPath_ordersPath
  rw [List.append_assoc, String.ofList_toList] at shown
  exact ⟨not_endsInPath scheme defaultPort authority queried _, by rw [path, path], shown⟩

theorem assembled_of_unqueried (plain : ∀ c ∈ tail, startsQuery c = false)
    (apart : tail = [] → margin = [])
    (inside : ∀ c ∈ margin, isMargin c = true ∧ isSkipped c = false) :
    let base := assembled scheme (.web defaultPort) (tail ++ List.replicate slashes '/') authority
    let below (path : String) :=
      assembled scheme (.web defaultPort) (tail ++ (margin ++ path.toList)) authority
    base.EndsInPath ∧ (below Contract.ordersPath).EndsInPath ∧
      ((below Contract.ordersPath).path =
          .ofList (withoutSlashes base.path.toList) ++ Contract.ordersPath ↔
        margin = [] ∧ ¬['/', '/'] <:+ (below "/").path.toList) := by
  have plainSlashes : ∀ c ∈ tail ++ List.replicate slashes '/', startsQuery c = false := by
    rw [List.forall_mem_append]
    refine ⟨plain, fun c member => ?_⟩
    rw [List.eq_of_mem_replicate member]
    decide
  have plainBelow {path : String} (shaped : IsEndpointPath path) :
      ∀ c ∈ tail ++ (margin ++ path.toList), startsQuery c = false := by
    rw [List.forall_mem_append, List.forall_mem_append]
    exact ⟨plain, fun c member => startsQuery_of_margin (inside c member).1, shaped.plain⟩
  obtain ⟨baseEnds, basePath⟩ := assembled_of_plain scheme defaultPort authority plainSlashes
  obtain ⟨targetEnds, targetPath⟩ :=
    assembled_of_plain scheme defaultPort authority (plainBelow isEndpointPath_ordersPath)
  obtain ⟨_, rootPath⟩ :=
    assembled_of_plain scheme defaultPort authority (plainBelow isEndpointPath_slash)
  refine ⟨baseEnds, targetEnds, ?_⟩
  rw [targetPath, basePath, rootPath, ← String.toList_inj, String.toList_append,
    String.toList_ofList, String.toList_ofList, String.toList_ofList, String.toList_ofList]
  exact pathOf_unrooted_iff slashes apart inside

end Assembled

theorem endpoint_eq_ok_iff (base path : String) (target : Address) :
    endpoint base path = .ok target ↔ parse (joinedText base path) = .ok target := by
  rw [endpoint_eq]
  cases parse (joinedText base path) <;> simp [Except.mapError]

theorem text_withQuery_nil {address : Address} {authority : Authority}
    (held : address.authority = some authority) (ends : address.EndsInPath) :
    (address.withQuery []).text = address.scheme ++ "://" ++ authority.text ++ address.path := by
  have colon : ":" ++ "//" = "://" := by
    decide +kernel
  have joined (rest : String) : ":" ++ ("//" ++ rest) = "://" ++ rest := by
    rw [← String.append_assoc, colon]
  simp [withQuery, text, beforePath, held, ends.1, ends.2, String.append_assoc, joined]

theorem exists_assembled {base : String} {target : Address}
    (accepted : Settings.baseUrlFault? base = none)
    (reached : endpoint base Contract.ordersPath = .ok target) :
    ∃ scheme defaultPort authority tail slashes, (tail = [] → keptMargin base = []) ∧
      parse base = .ok (assembled scheme (.web defaultPort)
        (tail ++ List.replicate slashes '/') authority) ∧
      ∀ path, IsEndpointPath path → endpoint base path = .ok (assembled scheme (.web defaultPort)
        (tail ++ (keptMargin base ++ path.toList)) authority) := by
  obtain ⟨scheme, defaultPort, auth, tail, slashes, reads⟩ := exists_reads accepted
  obtain ⟨address, read, _⟩ := parse_of_accepted accepted
  have apart : tail = [] → keptMargin base = [] := by
    intro bare
    by_contra margin
    obtain ⟨fault, failed⟩ := reads.parse_joined_error isEndpointPath_ordersPath bare margin
    rw [(endpoint_eq_ok_iff _ _ _).mp reached] at failed
    cases failed
  have own := reads.parse_base
  cases found : readAuthority (.web defaultPort) auth with
  | error fault =>
    rw [found, read] at own
    cases own
  | ok authority =>
    rw [found] at own
    refine ⟨scheme, defaultPort, authority, tail, slashes, apart, own, fun path shaped => ?_⟩
    rw [endpoint_eq_ok_iff, reads.parse_joined shaped apart, found]
    rfl

theorem endpoint_path_iff {arguments : List String} {environment : String → Option String}
    {settings : Settings} {target : Address}
    (resolved : Settings.resolve arguments environment = .ok settings)
    (reached : endpoint settings.baseUrl Contract.ordersPath = .ok target) :
    ∃ base authority, parse settings.baseUrl = .ok base ∧ target.scheme = base.scheme ∧
      base.authority = some authority ∧ target.authority = some authority ∧
      (target.path = .ofList (withoutSlashes base.path.toList) ++ Contract.ordersPath ↔
        base.EndsInPath ∧ keptMargin settings.baseUrl = [] ∧
          ∃ root, endpoint settings.baseUrl "/" = .ok root ∧ ¬['/', '/'] <:+ root.path.toList) ∧
      (base.EndsInPath →
        (target.withQuery []).text = base.scheme ++ "://" ++ authority.text ++ target.path) ∧
      (¬base.EndsInPath → target.path = base.path ∧
        ∃ front, target.fragment.or target.query = some (front ++ Contract.ordersPath)) := by
  obtain ⟨scheme, defaultPort, authority, tail, slashes, apart, own, below⟩ :=
    exists_assembled (Settings.baseUrlFault?_of_resolve resolved) reached
  have joined := below _ isEndpointPath_ordersPath
  obtain rfl := Except.ok.inj (reached.symm.trans joined)
  have root := below _ isEndpointPath_slash
  refine ⟨_, authority, own, rfl, rfl, rfl, ?_⟩
  by_cases queried : ∃ c ∈ tail, startsQuery c = true
  next =>
    obtain ⟨unended, path, shown⟩ :=
      assembled_of_queried scheme defaultPort authority slashes queried
    refine ⟨iff_of_false ?_ fun continued => unended continued.1, fun ends => absurd ends unended,
      fun _ => ⟨path, shown⟩⟩
    rw [path, ← String.toList_inj, String.toList_append, String.toList_ofList]
    exact (append_ordersPath_ne _).symm
  next =>
    have plain : ∀ c ∈ tail, startsQuery c = false := fun c member =>
      Bool.eq_false_iff.mpr fun starts => queried ⟨c, member, starts⟩
    obtain ⟨baseEnds, targetEnds, continued⟩ :=
      assembled_of_unqueried scheme defaultPort authority slashes plain apart keptMargin_inside
    refine ⟨?_, fun _ => text_withQuery_nil rfl targetEnds, fun unended => absurd baseEnds unended⟩
    rw [continued]
    constructor
    next =>
      rintro ⟨margin, single⟩
      exact ⟨baseEnds, margin, _, root, single⟩
    next =>
      rintro ⟨_, margin, other, same, single⟩
      obtain rfl := Except.ok.inj (root.symm.trans same)
      exact ⟨margin, single⟩

def nestedSettings : Settings := { Settings.default with baseUrl := Settings.localServer ++ "/api/" }

def localAuthority : Authority :=
  { username := "", password := none, host := some (.name "localhost"), port := some 8080 }

def nestedBase : Address :=
  { scheme := "http", authority := some localAuthority, path := "/api/", query := none,
    fragment := none }

def nestedTarget : Address := { nestedBase with path := "/api" ++ Contract.ordersPath }

theorem endpoint_of_nested :
    Settings.resolve [nestedSettings.baseUrl] (fun _ => none) = .ok nestedSettings ∧
      endpoint nestedSettings.baseUrl Contract.ordersPath = .ok nestedTarget ∧
        nestedTarget.path =
          .ofList (withoutSlashes nestedBase.path.toList) ++ Contract.ordersPath := by
  have resolved : Settings.resolve [nestedSettings.baseUrl] (fun _ => none) = .ok nestedSettings := by
    decide +kernel
  have reached : endpoint nestedSettings.baseUrl Contract.ordersPath = .ok nestedTarget := by
    decide +kernel
  have own : parse nestedSettings.baseUrl = .ok nestedBase := by
    decide +kernel
  have root : endpoint nestedSettings.baseUrl "/" = .ok nestedBase := by
    decide +kernel
  obtain ⟨base, _, read, _, _, _, continued, _⟩ := endpoint_path_iff resolved reached
  obtain rfl := Except.ok.inj (own.symm.trans read)
  have single : ¬['/', '/'] <:+ nestedBase.path.toList := by
    decide +kernel
  exact ⟨resolved, reached,
    continued.mpr ⟨⟨rfl, rfl⟩, by decide +kernel, nestedBase, root, single⟩⟩

def tenantSettings : Settings :=
  { Settings.default with baseUrl := Settings.localServer ++ "/?tenant=a" }

theorem accepted_base_loses_endpoint :
    ¬∀ (arguments : List String) (environment : String → Option String) (settings : Settings)
      (base target : Address), Settings.resolve arguments environment = .ok settings →
        parse settings.baseUrl = .ok base →
          endpoint settings.baseUrl Contract.ordersPath = .ok target →
            target.scheme = base.scheme ∧ target.host? = base.host? ∧
              target.authority.bind Authority.port = base.authority.bind Authority.port ∧
                target.path = .ofList (withoutSlashes base.path.toList) ++ Contract.ordersPath := by
  intro continues
  have resolved : Settings.resolve [tenantSettings.baseUrl] (fun _ => none) = .ok tenantSettings := by
    decide +kernel
  have own : parse tenantSettings.baseUrl = .ok
      { nestedBase with path := "/", query := some "tenant=a" } := by
    decide +kernel
  have reached : endpoint tenantSettings.baseUrl Contract.ordersPath = .ok
      { nestedBase with path := "/", query := some ("tenant=a" ++ Contract.ordersPath) } := by
    decide +kernel
  obtain ⟨_, _, _, path⟩ := continues _ _ _ _ _ resolved own reached
  exact absurd path (by decide +kernel)

end OrdersContract.Address
