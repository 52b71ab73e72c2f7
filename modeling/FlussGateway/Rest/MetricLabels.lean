import FlussGateway.Rest.Router

/-!
# Labels of the request metrics

`normalize_path` works on the path alone and does not know the route that was taken. It tells
templates apart by the number of segments and by a leading underscore.
-/
namespace FlussGateway.Rest

open FlussGateway.Foundation FlussGateway.Codec
open FlussGateway.Foundation.Routing (Fits Segment Table Template)

def question : UInt8 := 0x3F

/-- `starts_with('_')`. -/
def underscored (segment : Bytes) : Bool := (utf8 "_").isPrefixOf segment

def normalizePath (uri : Bytes) : Bytes :=
  let path := (uri.splitOn question).headD uri
  let parts := path.splitOn slash
  if 3 ≤ parts.length ∧ parts.getD 1 [] = utf8 "v1" then
    if parts.length = 3 then path
    else if parts.length = 4 ∧ underscored (parts.getD 3 []) then
      utf8 "/v1/{db}/" ++ parts.getD 3 []
    else if parts.length = 4 then utf8 "/v1/{db}/{table}"
    else utf8 "/v1/{db}/{table}" ++ [slash] ++ parts.getD 4 []
  else path

/-- The router matches the path to a template, with these parameters. -/
def Matches (path : Bytes) (template : Template Bytes) (params : List Bytes) : Prop :=
  ∃ entries route, (segments path).bind (routes.search filled) = some (entries, params) ∧
    route ∈ entries ∧ (template, route) ∈ routes

/-! ## The templates -/

def databasesTemplate : Template Bytes := [literal "v1", literal "_databases"]
def databaseTemplate : Template Bytes := [literal "v1", literal "_databases", .param]
def tablesTemplate : Template Bytes := [literal "v1", .param, literal "_tables"]
def tableTemplate : Template Bytes := [literal "v1", .param, literal "_tables", .param]
def lookupTemplate : Template Bytes := [literal "v1", .param, .param]

def operationTemplate (op : String) : Template Bytes :=
  [literal "v1", .param, .param, literal op]

/-- A path by its template: the segments it consists of and the parameters among them. -/
inductive Shape : Template Bytes → List Bytes → List Bytes → Prop where
  | databases : Shape databasesTemplate [] [utf8 "v1", utf8 "_databases"]
  | database {y : Bytes} : Shape databaseTemplate [y] [utf8 "v1", utf8 "_databases", y]
  | tables {x : Bytes} : Shape tablesTemplate [x] [utf8 "v1", x, utf8 "_tables"]
  | table {x z : Bytes} : Shape tableTemplate [x, z] [utf8 "v1", x, utf8 "_tables", z]
  | lookup {x y : Bytes} (plain : utf8 "_tables" ≠ y) :
      Shape lookupTemplate [x, y] [utf8 "v1", x, y]
  | operation {op : String × Route} {x y : Bytes} (member : op ∈ operations) :
      Shape (operationTemplate op.1) [x, y] [utf8 "v1", x, y, utf8 op.1]

section Search

open Routing.Table

variable {x z : Bytes}

theorem search_tables (other : utf8 "_databases" ≠ x) :
    routes.search filled [utf8 "v1", x, utf8 "_tables"] =
      some ([⟨.get, .listTables⟩, ⟨.post, .createTable⟩], [x]) := by
  have tables : belowVersion.params.search filled [utf8 "_tables"] =
      some ([⟨.get, .listTables⟩, ⟨.post, .createTable⟩], []) := by
    refine search_of_literals ?_
    rw [below_tables]
    rfl
  refine search_of_literals ?_
  rw [← belowVersion, search_other other, tables]
  rfl

/-- A route has one template. -/
theorem routes_functional {t t' : Template Bytes} {b : Route} (here : (t, b) ∈ routes)
    (there : (t', b) ∈ routes) : t = t' := by
  have distinct : (routes.map Prod.snd).Nodup := by decide
  exact congrArg Prod.fst (List.inj_on_of_nodup_map distinct here there rfl)

/-- A name matched by a lookup is not `_tables`. -/
theorem lookup_plain {x y : Bytes} {entries : List Route} {ps : List Bytes}
    (found : routes.search filled [utf8 "v1", x, y] = some (entries, ps))
    (lookup : ⟨.get, .lookup⟩ ∈ entries) : utf8 "_tables" ≠ y := by
  rintro rfl
  by_cases database : utf8 "_databases" = x
  · subst database
    rw [search_database rfl] at found
    cases found
    cases List.mem_singleton.mp lookup
  · rw [search_tables database] at found
    cases found
    simp at lookup

theorem template_cases {t : Template Bytes} {b : Route} (inside : (t, b) ∈ routes) :
    t = databasesTemplate ∨ t = databaseTemplate ∨ t = tablesTemplate ∨ t = tableTemplate ∨
      t = lookupTemplate ∧ b = ⟨.get, .lookup⟩ ∨ ∃ op ∈ operations, t = operationTemplate op.1 := by
  simp only [routes, List.mem_cons, Prod.mk.injEq, List.not_mem_nil, or_false] at inside
  rcases inside with h | h | h | h | h | h | h | h | h | h | h | h | h | h | h <;>
    simp [h.1, h.2, databasesTemplate, databaseTemplate, tablesTemplate, tableTemplate,
      lookupTemplate, operationTemplate, operations, literal]

theorem shape_of_matches {path : Bytes} {t : Template Bytes} {ps : List Bytes}
    (matched : Matches path t ps) : ∃ segs, segments path = some segs ∧ Shape t ps segs := by
  obtain ⟨entries, b, found, member, inside⟩ := matched
  obtain ⟨segs, split, searched⟩ := Option.bind_eq_some_iff.mp found
  refine ⟨segs, split, ?_⟩
  obtain ⟨t', inside', fits⟩ := Routing.search_sound searched b member
  obtain rfl := routes_functional inside inside'
  -- The template fixes how many segments there are and which are literals.
  rcases template_cases inside with rfl | rfl | rfl | rfl | ⟨rfl, rfl⟩ | ⟨op, member_, rfl⟩
  · simp only [databasesTemplate, literal, Routing.fits_literal_iff, Routing.fits_nil_iff] at fits
    obtain ⟨_, rfl, _, rfl, rfl, rfl⟩ := fits
    exact .databases
  · simp only [databaseTemplate, literal, Routing.fits_literal_iff, Routing.fits_param_iff,
      Routing.fits_nil_iff] at fits
    obtain ⟨_, rfl, _, rfl, y, _, _, rfl, rfl, _, rfl, rfl⟩ := fits
    exact .database
  · simp only [tablesTemplate, literal, Routing.fits_literal_iff, Routing.fits_param_iff,
      Routing.fits_nil_iff] at fits
    obtain ⟨_, rfl, x, _, _, rfl, rfl, _, _, rfl, rfl, rfl⟩ := fits
    exact .tables
  · simp only [tableTemplate, literal, Routing.fits_literal_iff, Routing.fits_param_iff,
      Routing.fits_nil_iff] at fits
    obtain ⟨_, rfl, x, _, _, rfl, rfl, _, _, rfl, z, _, _, rfl, rfl, _, rfl, rfl⟩ := fits
    exact .table
  · simp only [lookupTemplate, literal, Routing.fits_literal_iff, Routing.fits_param_iff,
      Routing.fits_nil_iff] at fits
    obtain ⟨_, rfl, x, _, _, rfl, rfl, _, y, _, _, rfl, rfl, _, rfl, rfl⟩ := fits
    exact .lookup (lookup_plain searched member)
  · simp only [operationTemplate, literal, Routing.fits_literal_iff, Routing.fits_param_iff,
      Routing.fits_nil_iff] at fits
    obtain ⟨_, rfl, x, _, _, rfl, rfl, _, y, _, _, rfl, rfl, _, _, rfl, rfl, rfl⟩ := fits
    exact .operation member_

end Search

/-! ## What a label shows -/

/-- The kinds of labels of matched paths. -/
inductive Shown where
  | databases
  | plain
  | collection (name : Bytes)
  | action (name : Bytes)

def Shown.label : Shown → Bytes
  | .databases => utf8 "/v1/_databases"
  | .plain => utf8 "/v1/{db}/{table}"
  | .collection name => utf8 "/v1/{db}/" ++ name
  | .action name => utf8 "/v1/{db}/{table}" ++ [slash] ++ name

/-- The last of three segments: its underscore decides. -/
def shownName (name : Bytes) : Shown := if underscored name then .collection name else .plain

/-- What the label of a path of this shape shows. -/
def shown : List Bytes → Shown
  | [_, _] => .databases
  | [_, _, name] => shownName name
  | [_, _, _, name] => .action name
  | _ => .plain

theorem normalizePath_eq {path : Bytes} {t : Template Bytes} {ps segs : List Bytes}
    (clean : question ∉ path) (split : segments path = some segs) (shape : Shape t ps segs) :
    normalizePath path = (shown segs).label := by
  -- Without a query the path is the whole address, and it begins with a slash.
  have whole : (path.splitOn question).headD path = path := by
    rw [List.splitOn_eq_singleton clean]
    rfl
  have parts : path.splitOn slash = [] :: segs := by
    unfold segments at split
    split at split
    next rest same =>
      cases split
      exact same
    next => cases split
  unfold normalizePath
  dsimp only
  rw [whole, parts]
  cases shape with
  -- Two segments are left as they are.
  | databases =>
    have same : [slash].intercalate (path.splitOn slash) = path := List.intercalate_splitOn slash
    rw [parts] at same
    exact same.symm
  | @database y | @lookup _ y =>
    cases under : underscored y <;> simp [shown, shownName, Shown.label, under]
  | tables | table | operation => rfl

/-- A collection is shown under a name with its underscore. -/
def Shown.Proper : Shown → Prop
  | .collection name => underscored name = true
  | _ => True

theorem underscored_iff (name : Bytes) : underscored name = true ↔ ∃ rest, name = 0x5F :: rest := by
  rw [underscored, List.isPrefixOf_iff_prefix]
  constructor
  · rintro ⟨rest, rfl⟩
    exact ⟨rest, rfl⟩
  · rintro ⟨rest, rfl⟩
    exact ⟨rest, rfl⟩

/-- The label without the part that all labels but one begin with. -/
def Shown.tail : Shown → Option Bytes
  | .databases => none
  | .plain => some (utf8 "{table}")
  | .collection name => some name
  | .action name => some (utf8 "{table}" ++ slash :: name)

theorem Shown.label_tail (a : Shown) {tail : Bytes} (here : a.tail = some tail) :
    a.label = utf8 "/v1/{db}/" ++ tail := by
  cases a <;> cases here <;> rfl

theorem not_brace {name : Bytes} (under : underscored name = true) (rest : Bytes) :
    name ≠ utf8 "{table}" ++ rest := by
  obtain ⟨tail, rfl⟩ := (underscored_iff name).mp under
  have brace : utf8 "{table}" = 0x7B :: utf8 "table\x7d" := rfl
  simp [brace]

theorem Shown.tail_injective {a b : Shown} (properA : a.Proper) (properB : b.Proper)
    (same : a.tail = b.tail) : a = b := by
  cases a <;> cases b <;>
    simp only [Shown.tail, Option.some.injEq, reduceCtorEq] at same ⊢
  -- Names with an underscore do not begin with a brace.
  case plain.collection name =>
    exact absurd (same.symm.trans (List.append_nil _).symm) (not_brace properB [])
  case plain.action => simp at same
  case collection.plain name =>
    exact absurd (same.trans (List.append_nil _).symm) (not_brace properA [])
  case collection.collection => rw [same]
  case collection.action name rest => exact absurd same (not_brace properA _)
  case action.plain => simp at same
  case action.collection rest name => exact absurd same.symm (not_brace properB _)
  case action.action => simpa using same

theorem Shown.label_databases {b : Shown} {tail : Bytes} (here : b.tail = some tail) :
    b.label ≠ Shown.databases.label := by
  rw [b.label_tail here]
  have brace : utf8 "/v1/{db}/" = utf8 "/v1/" ++ 0x7B :: utf8 "db\x7d/" := rfl
  have under : Shown.databases.label = utf8 "/v1/" ++ 0x5F :: utf8 "databases" := rfl
  simp [brace, under]

theorem Shown.label_injective {a b : Shown} (properA : a.Proper) (properB : b.Proper)
    (same : a.label = b.label) : a = b := by
  apply Shown.tail_injective properA properB
  cases tailA : a.tail with
  | none =>
    obtain rfl : a = .databases := by cases a <;> cases tailA; rfl
    cases tailB : b.tail with
    | none => rfl
    | some tail => exact absurd same.symm (Shown.label_databases tailB)
  | some tail =>
    cases tailB : b.tail with
    | none =>
      obtain rfl : b = .databases := by cases b <;> cases tailB; rfl
      exact absurd same (Shown.label_databases tailA)
    | some tail' =>
      rw [a.label_tail tailA, b.label_tail tailB] at same
      rw [List.append_cancel_left same]

/-! ## When labels and templates agree -/

/-- Two names that both begin with an underscore are told apart, two that do not are not. -/
def SameLook (a b : Bytes) : Prop :=
  a = b ∨ underscored a = false ∧ underscored b = false

/-- The last name of a path. -/
def name (params : List Bytes) : Bytes := params.getLastD []

/-- Paths of one template whose names show, and paths of two templates that look the same. -/
def Confuses (t : Template Bytes) (a : Bytes) (u : Template Bytes) (b : Bytes) : Prop :=
  (t = tableTemplate ∧ u = tableTemplate ∧ a ≠ b) ∨
  (t = databaseTemplate ∧ u = databaseTemplate ∧ ¬SameLook a b) ∨
  (t = lookupTemplate ∧ u = lookupTemplate ∧ ¬SameLook a b) ∨
  (t = databaseTemplate ∧ u = lookupTemplate ∧ SameLook a b) ∨
  (t = databaseTemplate ∧ u = tablesTemplate ∧ a = utf8 "_tables") ∨
  (t = tableTemplate ∧ ∃ op ∈ operations, u = operationTemplate op.1 ∧ a = utf8 op.1)

def Clash (t : Template Bytes) (ps : List Bytes) (u : Template Bytes) (qs : List Bytes) : Prop :=
  Confuses t (name ps) u (name qs) ∨ Confuses u (name qs) t (name ps)

theorem shownName_proper (a : Bytes) : (shownName a).Proper := by
  unfold shownName
  split
  next under => exact under
  next => trivial

theorem shownName_eq_iff (a b : Bytes) : shownName a = shownName b ↔ SameLook a b := by
  unfold shownName SameLook
  cases underA : underscored a <;> cases underB : underscored b <;> simp
  · rintro rfl
    rw [underA] at underB
    cases underB
  · rintro rfl
    rw [underA] at underB
    cases underB

theorem SameLook.symm {a b : Bytes} (same : SameLook a b) : SameLook b a := by
  rcases same with rfl | ⟨plainA, plainB⟩
  · exact .inl rfl
  · exact .inr ⟨plainB, plainA⟩

theorem sameLook_comm {a b : Bytes} : SameLook a b ↔ SameLook b a :=
  ⟨SameLook.symm, SameLook.symm⟩

@[simp] theorem sameLook_tables {a : Bytes} : SameLook a (utf8 "_tables") ↔ a = utf8 "_tables" :=
  or_iff_left fun plain => by cases plain.2

@[simp] theorem tables_sameLook {a : Bytes} : SameLook (utf8 "_tables") a ↔ a = utf8 "_tables" :=
  sameLook_comm.trans sameLook_tables

@[simp] theorem shownName_ne_databases (a : Bytes) : shownName a ≠ .databases := by
  cases under : underscored a <;> simp [shownName, under]

@[simp] theorem shownName_ne_action (a b : Bytes) : shownName a ≠ .action b := by
  cases under : underscored a <;> simp [shownName, under]

theorem Shape.proper {t : Template Bytes} {ps segs : List Bytes} (shape : Shape t ps segs) :
    (shown segs).Proper := by
  cases shape with
  | databases | table | operation => trivial
  | tables => exact shownName_proper _
  | database | lookup => exact shownName_proper _

theorem shown_iff_template {t u : Template Bytes} {ps qs segs segs' : List Bytes}
    (here : Shape t ps segs) (there : Shape u qs segs') :
    (shown segs = shown segs' ↔ t = u) ↔ ¬Clash t ps u qs := by
  -- What the labels show is compared template by template; most pairs are told apart at once.
  cases here <;> cases there <;>
    simp [shown, Clash, Confuses, name, databasesTemplate, databaseTemplate, tablesTemplate,
      tableTemplate, lookupTemplate, operationTemplate, literal, shownName_eq_iff,
      (shownName_ne_databases _).symm, (shownName_ne_action _ _).symm]
  case database.database | lookup.lookup => exact SameLook.symm
  case lookup.database => rw [sameLook_comm]
  case tables.lookup | lookup.tables => exact Ne.symm ‹_›
  case table.table => exact Eq.symm
  case table.operation op _ _ member => exact ⟨fun other _ _ => other, fun all => all _ member⟩
  case operation.table op _ _ member _ _ =>
    exact ⟨fun other _ _ => Ne.symm other, fun all => Ne.symm (all _ member)⟩

/-- Two matched paths have the same label exactly if they have the same template, unless their names
clash: a table under `_tables`, a name with an underscore, or a database under `_databases`. -/
theorem labels_iff_templates {p q : Bytes} {t u : Template Bytes} {ps qs : List Bytes}
    (matchesP : Matches p t ps) (matchesQ : Matches q u qs) (cleanP : question ∉ p)
    (cleanQ : question ∉ q) :
    (normalizePath p = normalizePath q ↔ t = u) ↔ ¬Clash t ps u qs := by
  obtain ⟨segs, split, shape⟩ := shape_of_matches matchesP
  obtain ⟨segs', split', shape'⟩ := shape_of_matches matchesQ
  rw [normalizePath_eq cleanP split shape, normalizePath_eq cleanQ split' shape',
    ← shown_iff_template shape shape']
  have same : (shown segs).label = (shown segs').label ↔ shown segs = shown segs' :=
    ⟨Shown.label_injective shape.proper shape'.proper, congrArg _⟩
  rw [same]

/-! ## Names in labels -/

theorem lookup_matches :
    Matches (utf8 "/v1/shop/orders") lookupTemplate [utf8 "shop", utf8 "orders"] :=
  ⟨[⟨.get, .lookup⟩], _, by decide, List.mem_cons_self, by decide⟩

theorem labels_iff_templates_lookup :
    (normalizePath (utf8 "/v1/shop/orders") = normalizePath (utf8 "/v1/shop/orders/rows") ↔
        lookupTemplate = operationTemplate "rows") ↔
      ¬Clash lookupTemplate [utf8 "shop", utf8 "orders"] (operationTemplate "rows")
        [utf8 "shop", utf8 "orders"] :=
  labels_iff_templates lookup_matches
    ⟨[⟨.post, .produce⟩], _, by decide, List.mem_cons_self, by decide⟩ (by decide) (by decide)

/-- The names of tables dropped or described by PUT are labels, and so are names that begin with an
underscore; a database and a lookup share their label. -/
theorem labels_show_names :
    (Matches (utf8 "/v1/shop/_tables/orders") tableTemplate [utf8 "shop", utf8 "orders"] ∧
      Matches (utf8 "/v1/shop/_tables/users") tableTemplate [utf8 "shop", utf8 "users"] ∧
      normalizePath (utf8 "/v1/shop/_tables/orders") = utf8 "/v1/{db}/{table}/orders" ∧
      normalizePath (utf8 "/v1/shop/_tables/users") = utf8 "/v1/{db}/{table}/users") ∧
    (Matches (utf8 "/v1/shop/_old") lookupTemplate [utf8 "shop", utf8 "_old"] ∧
      normalizePath (utf8 "/v1/shop/_old") = utf8 "/v1/{db}/_old") ∧
    (Matches (utf8 "/v1/_databases/shop") databaseTemplate [utf8 "shop"] ∧
      normalizePath (utf8 "/v1/_databases/shop") = normalizePath (utf8 "/v1/shop/orders")) ∧
    ¬∀ p q t u ps qs, Matches p t ps → Matches q u qs → question ∉ p → question ∉ q →
      (normalizePath p = normalizePath q ↔ t = u) := by
  have orders : Matches (utf8 "/v1/shop/_tables/orders") tableTemplate
      [utf8 "shop", utf8 "orders"] :=
    ⟨[⟨.put, .tableInfoPut⟩, ⟨.delete, .dropTable⟩], _, by decide, List.mem_cons_self, by decide⟩
  have users : Matches (utf8 "/v1/shop/_tables/users") tableTemplate [utf8 "shop", utf8 "users"] :=
    ⟨[⟨.put, .tableInfoPut⟩, ⟨.delete, .dropTable⟩], _, by decide, List.mem_cons_self, by decide⟩
  refine ⟨⟨orders, users, by decide, by decide⟩, ⟨?_, by decide⟩, ⟨?_, by decide⟩, fun all => ?_⟩
  · exact ⟨[⟨.get, .lookup⟩], _, by decide, List.mem_cons_self, by decide⟩
  · exact ⟨[⟨.delete, .dropDatabase⟩], _, by decide, List.mem_cons_self, by decide⟩
  · have same := (all _ _ _ _ _ _ orders users (by decide) (by decide)).mpr rfl
    exact absurd same (by decide)

end FlussGateway.Rest
