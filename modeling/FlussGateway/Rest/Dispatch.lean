import FlussGateway.Foundation.RoutingOrder
import FlussGateway.Rest.Router

/-!
# Which handler serves a request

The gateway registers a table of routes; how a request finds its way through such a table is the
router's business. Here the router is any function that keeps to its documentation: a path belongs
to one template of those that fit it, the one with a literal where another has a parameter, and only
the routes of that template are asked for the method.
-/
namespace FlussGateway.Rest

open FlussGateway.Foundation FlussGateway.Foundation.Routing FlussGateway.Codec

def FitsPath (t : Template Bytes) (path : Bytes) (raw : List Bytes) : Prop :=
  ∃ segs, segments path = some segs ∧ Fits filled t segs raw

/-- The template is one of the table's, it fits the path, and any other that fits comes after it. -/
structure Belongs (path : Bytes) (t : Template Bytes) (raw : List Bytes) : Prop where
  fits : FitsPath t path raw
  known : ∃ route, (t, route) ∈ routes
  least : ∀ e ∈ routes, ∀ raw', FitsPath e.1 path raw' → e.1 = t ∨ Before t e.1

/-- The router serves the table as it documents. -/
structure ServesTable (router : Method → Bytes → Dispatched) : Prop where
  misses : ∀ method path, (∀ e ∈ routes, ∀ raw, ¬FitsPath e.1 path raw) →
    router method path = .notFound
  refuses : ∀ method path t raw, Belongs path t raw →
    (∀ route, (t, route) ∈ routes → route.method.serves method = false) →
    router method path = .methodNotAllowed
  serves : ∀ method path t raw route, Belongs path t raw → (t, route) ∈ routes →
    route.method.serves method = true → router method path = .handler route.target raw

/-- A path that fits the template of this handler belongs to another one. -/
def Yields : Target → List Bytes → Prop
  | .listTables, raw | .createTable, raw => raw = [utf8 "_databases"]
  | .lookup, raw => raw.head? = some (utf8 "_databases") ∨ raw.getLast? = some (utf8 "_tables")
  | .tableInfoGet, raw | .prefixScan, raw | .batchLookup, raw | .scan, raw | .produce, raw
  | .listOffsets, raw | .listPartitions, raw => raw.getLast? = some (utf8 "_tables")
  | .listDatabases, _ | .createDatabase, _ | .dropDatabase, _ | .tableInfoPut, _
  | .dropTable, _ => False

/-- The requests that get to each handler, and those that get to none. -/
structure Dispatches (router : Method → Bytes → Dispatched) : Prop where
  modelled : router = dispatch
  handler : ∀ method path target raw, router method path = .handler target raw ↔
    ∃ t own, (t, ⟨own, target⟩) ∈ routes ∧ own.serves method = true ∧ FitsPath t path raw ∧
      ¬Yields target raw
  methodNotAllowed : ∀ method path, router method path = .methodNotAllowed ↔
    (∃ e ∈ routes, ∃ raw, FitsPath e.1 path raw) ∧
    ∀ e ∈ routes, ∀ raw, FitsPath e.1 path raw → ¬Yields e.2.target raw →
      e.2.method.serves method = false
  notFound : ∀ method path, router method path = .notFound ↔
    ∀ e ∈ routes, ∀ raw, ¬FitsPath e.1 path raw

/-! ## Templates before others -/

section Order

variable {e : Template Bytes × Route} {segs raw : List Bytes}

/-- The templates that come before the one of this handler. -/
def earlier : Target → List (Template Bytes)
  | .listTables | .createTable => [[literal "v1", literal "_databases", .param]]
  | .lookup => [[literal "v1", literal "_databases", .param], [literal "v1", .param, literal "_tables"]]
  | .tableInfoGet | .prefixScan | .batchLookup | .scan | .produce | .listOffsets
  | .listPartitions => [[literal "v1", .param, literal "_tables", .param]]
  | .listDatabases | .createDatabase | .dropDatabase | .tableInfoPut | .dropTable => []

theorem mem_earlier_iff (member : e ∈ routes) (t : Template Bytes) :
    t ∈ earlier e.2.target ↔ (∃ route, (t, route) ∈ routes) ∧ Before t e.1 ∧ t.length = e.1.length := by
  have known : ∀ e ∈ routes, ∀ t ∈ earlier e.2.target, t ∈ routes.map Prod.fst ∧ Before t e.1 ∧
      t.length = e.1.length := by
    decide
  have all : ∀ e ∈ routes, ∀ e' ∈ routes, Before e'.1 e.1 → e'.1.length = e.1.length →
      e'.1 ∈ earlier e.2.target := by
    decide
  constructor
  · intro inside
    obtain ⟨⟨e', member', rfl⟩, both⟩ := (known e member t inside).imp_left List.mem_map.mp
    exact ⟨⟨e'.2, member'⟩, both⟩
  · rintro ⟨⟨route, member'⟩, before, sized⟩
    exact all e member _ member' before sized

theorem yields_tables (fits : Fits filled [literal "v1", .param, literal "_tables"] segs raw) :
    raw = [utf8 "_databases"] ↔ ∃ t ∈ earlier .listTables, ∃ raw', Fits filled t segs raw' := by
  have full : utf8 "_tables" ≠ [] := by decide
  simp only [literal, fits_literal_iff, fits_param_iff, fits_nil_iff] at fits
  obtain ⟨_, rfl, x, _, _, rfl, rfl, _, _, rfl, rfl, rfl⟩ := fits
  simp [earlier, literal, filled, full]

theorem yields_lookup (fits : Fits filled [literal "v1", .param, .param] segs raw) :
    (raw.head? = some (utf8 "_databases") ∨ raw.getLast? = some (utf8 "_tables")) ↔
      ∃ t ∈ earlier .lookup, ∃ raw', Fits filled t segs raw' := by
  simp only [literal, fits_literal_iff, fits_param_iff, fits_nil_iff] at fits
  obtain ⟨_, rfl, x, _, _, rfl, rfl, _, y, _, _, rfl, rfl, full, rfl, rfl⟩ := fits
  rw [takes_last] at full
  simp [earlier, literal, full]

theorem yields_operation {op : String} (named : op ≠ "")
    (fits : Fits filled [literal "v1", .param, .param, literal op] segs raw) :
    raw.getLast? = some (utf8 "_tables") ↔
      ∃ t ∈ earlier .scan, ∃ raw', Fits filled t segs raw' := by
  have full : utf8 op ≠ [] := show utf8 op ≠ utf8 "" from mt utf8_inj.mp named
  simp only [literal, fits_literal_iff, fits_param_iff, fits_nil_iff] at fits
  obtain ⟨_, rfl, x, _, _, rfl, rfl, _, y, _, _, rfl, rfl, _, _, rfl, rfl, rfl⟩ := fits
  simp [earlier, literal, filled, full]

/-- A path goes over to another template exactly if one that comes first fits it too. -/
theorem yields_iff (member : e ∈ routes) (fits : Fits filled e.1 segs raw) :
    Yields e.2.target raw ↔ ∃ t ∈ earlier e.2.target, ∃ raw', Fits filled t segs raw' := by
  simp only [routes, List.mem_cons, List.not_mem_nil, or_false] at member
  rcases member with rfl | rfl | rfl | rfl | rfl | rfl | rfl | rfl | rfl | rfl | rfl | rfl | rfl | rfl | rfl
  -- One bullet for each route, in the order they are registered.
  · simp [Yields, earlier]
  · simp [Yields, earlier]
  · simp [Yields, earlier]
  · exact yields_tables fits
  · exact yields_tables fits
  · simp [Yields, earlier]
  · simp [Yields, earlier]
  · exact yields_operation (by decide) fits
  · exact yields_lookup fits
  · exact yields_operation (by decide) fits
  · exact yields_operation (by decide) fits
  · exact yields_operation (by decide) fits
  · exact yields_operation (by decide) fits
  · exact yields_operation (by decide) fits
  · exact yields_operation (by decide) fits

end Order

/-! ## The template a path belongs to -/

variable {path : Bytes} {t : Template Bytes} {raw : List Bytes}

/-- A path belongs to a template that fits it unless it has to go over to another. -/
theorem belongs_iff {e : Template Bytes × Route} (member : e ∈ routes) :
    Belongs path e.1 raw ↔ FitsPath e.1 path raw ∧ ¬Yields e.2.target raw := by
  constructor
  · intro belongs
    obtain ⟨segs, split, fits⟩ := belongs.fits
    refine ⟨⟨segs, split, fits⟩, fun yields => ?_⟩
    obtain ⟨t, inside, raw', fits'⟩ := (yields_iff member fits).mp yields
    obtain ⟨⟨route, known⟩, before, _⟩ := (mem_earlier_iff member t).mp inside
    rcases belongs.least _ known raw' ⟨segs, split, fits'⟩ with same | after
    · obtain rfl : t = e.1 := same
      exact before.asymm before
    · exact after.asymm before
  · rintro ⟨⟨segs, split, fits⟩, stays⟩
    refine ⟨⟨segs, split, fits⟩, ⟨_, member⟩, ?_⟩
    rintro e' member' raw' ⟨segs', split', fits'⟩
    cases split.symm.trans split'
    rcases fits.total fits' with same | before | after
    · exact .inl same.symm
    · exact .inr before
    · refine absurd ((yields_iff member fits).mpr ⟨e'.1, ?_, raw', fits'⟩) stays
      exact (mem_earlier_iff member _).mpr
        ⟨⟨_, member'⟩, after, fits'.length.trans fits.length.symm⟩

/-! ## The search keeps to the documentation -/

/-- A template has one route for a method. -/
theorem route_unique {t : Template Bytes} {route route' : Route} {method : Method}
    (member : (t, route) ∈ routes) (member' : (t, route') ∈ routes)
    (serves : route.method.serves method = true) (serves' : route'.method.serves method = true) :
    route = route' := by
  have distinct : ∀ e ∈ routes, ∀ e' ∈ routes, e.1 = e'.1 → e.2.method = e'.2.method → e.2 = e'.2 := by
    decide
  have noHead : ∀ e ∈ routes, e.2.method ≠ .head := by decide
  refine distinct _ member _ member' rfl ?_
  have here := noHead _ member
  have there := noHead _ member'
  simp only [Method.serves, Bool.or_eq_true, beq_iff_eq, Bool.and_eq_true] at serves serves'
  rcases serves with same | ⟨get, head⟩ <;> rcases serves' with same' | ⟨get', head'⟩
  · exact same.trans same'.symm
  · exact absurd (same.trans head') here
  · exact absurd (same'.trans head) there
  · exact get.trans get'.symm

variable {entries : List Route}

theorem found_iff : (segments path).bind (routes.search filled) = some (entries, raw) ↔
    ∃ t, Belongs path t raw ∧ entries = routes.entriesAt t := by
  cases split : segments path with
  | none =>
    refine iff_of_false nofun ?_
    rintro ⟨t, ⟨⟨segs, other, _⟩, _, _⟩, _⟩
    rw [split] at other
    cases other
  | some segs =>
    have whole : ∀ t raw, FitsPath t path raw ↔ Fits filled t segs raw := by
      intro t raw
      simp [FitsPath, split]
    rw [Option.bind_some, search_some_iff]
    constructor
    · rintro ⟨t, preferred, rfl, some⟩
      obtain ⟨route, member⟩ := List.exists_mem_of_ne_nil _ some
      refine ⟨t, ⟨(whole t raw).mpr preferred.fits, ⟨route, mem_entriesAt.mp member⟩, ?_⟩, rfl⟩
      exact fun e inside raw' fits => preferred.least e inside raw' ((whole _ _).mp fits)
    · rintro ⟨t, belongs, rfl⟩
      obtain ⟨route, member⟩ := belongs.known
      refine ⟨t, ⟨(whole t raw).mp belongs.fits, ?_⟩, rfl, ?_⟩
      · exact fun e inside qs fits => belongs.least e inside qs ((whole _ _).mpr fits)
      · exact List.ne_nil_of_mem (mem_entriesAt.mpr member)

/-- The first route of a template that serves the method. -/
def routeFor (t : Template Bytes) (method : Method) : Option Route :=
  (routes.entriesAt t).find? fun route => route.method.serves method

theorem routeFor_eq_none_iff {method : Method} : routeFor t method = none ↔
    ∀ route, (t, route) ∈ routes → route.method.serves method = false := by
  rw [routeFor, List.find?_eq_none]
  exact forall_congr' fun route => by rw [mem_entriesAt, Bool.not_eq_true]

theorem routeFor_eq_some_iff {method : Method} {route : Route} : routeFor t method = some route ↔
    (t, route) ∈ routes ∧ route.method.serves method = true := by
  constructor
  · intro chosen
    exact ⟨mem_entriesAt.mp (List.mem_of_find?_eq_some chosen), by simpa using List.find?_some chosen⟩
  · rintro ⟨member, serves⟩
    cases chosen : routeFor t method with
    | none =>
      rw [routeFor_eq_none_iff.mp chosen route member] at serves
      cases serves
    | some other =>
      have member' := mem_entriesAt.mp (List.mem_of_find?_eq_some chosen)
      have serves' : other.method.serves method = true := by simpa using List.find?_some chosen
      rw [route_unique member' member serves' serves]

/-- A path that some template fits belongs to one. -/
theorem fits_none_iff : (∀ e ∈ routes, ∀ raw, ¬FitsPath e.1 path raw) ↔ ¬∃ t raw, Belongs path t raw := by
  constructor
  · rintro none ⟨t, raw, belongs⟩
    obtain ⟨route, member⟩ := belongs.known
    exact none _ member raw belongs.fits
  · rintro none e member raw ⟨segs, split, fits⟩
    cases found : routes.search filled segs with
    | none => exact search_none found e member raw fits
    | some found' =>
      have here : (segments path).bind (routes.search filled) = some found' := by
        rw [split, Option.bind_some, found]
      obtain ⟨t, belongs, _⟩ := found_iff.mp here
      exact none ⟨t, _, belongs⟩

/-- The rules leave no choice. -/
theorem ServesTable.unique {router router' : Method → Bytes → Dispatched}
    (rules : ServesTable router) (rules' : ServesTable router') : router = router' := by
  funext method path
  by_cases known : ∃ t raw, Belongs path t raw
  · obtain ⟨t, raw, belongs⟩ := known
    cases chosen : routeFor t method with
    | none =>
      have none := routeFor_eq_none_iff.mp chosen
      rw [rules.refuses method path t raw belongs none, rules'.refuses method path t raw belongs none]
    | some route =>
      obtain ⟨member, serves⟩ := routeFor_eq_some_iff.mp chosen
      rw [rules.serves method path t raw route belongs member serves,
        rules'.serves method path t raw route belongs member serves]
  · have none := fits_none_iff.mpr known
    rw [rules.misses method path none, rules'.misses method path none]

/-- The routes of the template that a path belongs to are asked for the method. -/
theorem dispatch_of_belongs (belongs : Belongs path t raw) (method : Method) :
    dispatch method path = (routeFor t method).elim .methodNotAllowed
      fun route => .handler route.target raw := by
  unfold dispatch routeFor
  rw [found_iff.mpr ⟨t, belongs, rfl⟩]
  dsimp only
  cases (routes.entriesAt t).find? fun route => route.method.serves method <;> rfl

theorem dispatch_servesTable : ServesTable dispatch where
  misses method path none := by
    have lost := fits_none_iff.mp none
    cases found : (segments path).bind (routes.search filled) with
    | none =>
      unfold dispatch
      rw [found]
    | some found' =>
      obtain ⟨t, belongs, _⟩ := found_iff.mp found
      exact absurd ⟨t, _, belongs⟩ lost
  refuses method path t raw belongs none := by
    rw [dispatch_of_belongs belongs, routeFor_eq_none_iff.mpr none]
    rfl
  serves method path t raw route belongs member serves := by
    rw [dispatch_of_belongs belongs, routeFor_eq_some_iff.mpr ⟨member, serves⟩]
    rfl

/-! ## Every request -/

/-- A path belongs to one template. -/
theorem Belongs.unique {t' : Template Bytes} {raw' : List Bytes} (belongs : Belongs path t raw)
    (other : Belongs path t' raw') : t = t' := by
  obtain ⟨route, member⟩ := belongs.known
  obtain ⟨route', member'⟩ := other.known
  rcases belongs.least _ member' raw' other.fits with same | before
  · exact same.symm
  · rcases other.least _ member raw belongs.fits with same | after
    · exact same
    · exact absurd after before.asymm

theorem dispatch_handler_iff {method : Method} {target : Target} :
    dispatch method path = .handler target raw ↔ ∃ t own, (t, ⟨own, target⟩) ∈ routes ∧
      own.serves method = true ∧ FitsPath t path raw ∧ ¬Yields target raw := by
  constructor
  · intro same
    by_cases known : ∃ t raw, Belongs path t raw
    · obtain ⟨t, raw', belongs⟩ := known
      rw [dispatch_of_belongs belongs] at same
      cases chosen : routeFor t method with
      | none =>
        rw [chosen] at same
        cases same
      | some route =>
        rw [chosen] at same
        cases same
        obtain ⟨member, serves⟩ := routeFor_eq_some_iff.mp chosen
        exact ⟨t, route.method, member, serves, (belongs_iff member).mp belongs⟩
    · rw [dispatch_servesTable.misses method path (fits_none_iff.mpr known)] at same
      cases same
  · rintro ⟨t, own, member, serves, fits, stays⟩
    have belongs : Belongs path t raw := (belongs_iff member).mpr ⟨fits, stays⟩
    exact dispatch_servesTable.serves method path t raw _ belongs member serves

theorem dispatch_notFound_iff {method : Method} : dispatch method path = .notFound ↔
    ∀ e ∈ routes, ∀ raw, ¬FitsPath e.1 path raw := by
  refine ⟨fun same => fits_none_iff.mpr ?_, dispatch_servesTable.misses method path⟩
  rintro ⟨t, raw, belongs⟩
  rw [dispatch_of_belongs belongs] at same
  cases chosen : routeFor t method <;> rw [chosen] at same <;> cases same

theorem dispatch_methodNotAllowed_iff {method : Method} :
    dispatch method path = .methodNotAllowed ↔ (∃ e ∈ routes, ∃ raw, FitsPath e.1 path raw) ∧
      ∀ e ∈ routes, ∀ raw, FitsPath e.1 path raw → ¬Yields e.2.target raw →
        e.2.method.serves method = false := by
  constructor
  · intro same
    by_cases known : ∃ t raw, Belongs path t raw
    · obtain ⟨t, raw, belongs⟩ := known
      obtain ⟨route, member⟩ := belongs.known
      refine ⟨⟨_, member, raw, belongs.fits⟩, fun e inside raw' fits stays => ?_⟩
      -- A second template that the path belongs to is the first one again.
      obtain rfl := belongs.unique ((belongs_iff inside).mpr ⟨fits, stays⟩)
      refine Bool.eq_false_iff.mpr fun serves => ?_
      rw [dispatch_servesTable.serves method path _ raw e.2 belongs inside serves] at same
      cases same
    · rw [dispatch_servesTable.misses method path (fits_none_iff.mpr known)] at same
      cases same
  · rintro ⟨⟨e, inside, raw, fits⟩, none⟩
    have known : ∃ t raw, Belongs path t raw := by
      by_contra lost
      exact fits_none_iff.mpr lost e inside raw fits
    obtain ⟨t, raw', belongs⟩ := known
    refine dispatch_servesTable.refuses method path t raw' belongs fun route member => ?_
    obtain ⟨fits', stays⟩ := (belongs_iff member).mp belongs
    exact none _ member raw' fits' stays

/-- A router that keeps to its documentation decides every request as the model does: it gets to
the handler whose template fits the path unless the path goes over to another template. -/
theorem router_dispatches {router : Method → Bytes → Dispatched} (rules : ServesTable router) :
    Dispatches router := by
  obtain rfl := rules.unique dispatch_servesTable
  exact {
    modelled := rfl
    handler := fun _ _ _ _ => dispatch_handler_iff
    methodNotAllowed := fun _ _ => dispatch_methodNotAllowed_iff
    notFound := fun _ _ => dispatch_notFound_iff }

theorem router_dispatches_search : Dispatches dispatch := router_dispatches dispatch_servesTable

/-- A name may be missing, but not at the end. -/
example : dispatch .get (utf8 "/v1//orders") = .handler .lookup [[], utf8 "orders"] ∧
    dispatch .get (utf8 "/v1/shop/") = .notFound := by
  decide

end FlussGateway.Rest
