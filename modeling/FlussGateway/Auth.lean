import FlussGateway.Config.File
import FlussGateway.Foundation.Base64
import FlussGateway.Foundation.ByteOffset
import FlussGateway.Foundation.Program
import FlussGateway.Types

/-!
# Credentials of a request

From the `Authorization` header to the credentials a handler passes on. The base64 decoder
is a parameter. Slices of the header and of the decoded text are cuts at byte offsets,
which panic where the offset is not a character boundary.
-/
namespace FlussGateway.Auth

open FlussGateway.Foundation FlussGateway.Foundation.ByteOffset

structure BasicAuthCredentials where
  username : String
  password : String
deriving DecidableEq

/-- `&text[..n]` and `&text[n..]`. -/
def slice {ε : Type} (text : List Char) (n : Nat) : Outcome ε (List Char × List Char) :=
  match cut text n with
  | some parts => .ok parts
  | none => Outcome.panicked "byte index is not a char boundary"

/-- A decoder of base64 text, failing on text that is not base64. -/
abbrev Base64 := String → Option (List UInt8)

def scheme : List Char := "Basic ".toList

def parseBasicAuth {ε : Type} (decode : Base64) (headerValue : String) :
    Outcome ε (Option BasicAuthCredentials) := do
  if !scheme.isPrefixOf headerValue.toList then
    return none
  let (_, encoded) ← slice headerValue.toList 6
  match (decode (String.ofList encoded)).bind fun bytes => String.fromUTF8? ⟨bytes.toArray⟩ with
  | none => return none
  | some decoded =>
    match find ':' decoded.toList with
    | none => return none
    | some colonPos =>
      let (username, _) ← slice decoded.toList colonPos
      let (_, password) ← slice decoded.toList (colonPos + 1)
      -- The password may be empty, the name may not.
      if username.isEmpty then
        return none
      return some ⟨String.ofList username, String.ofList password⟩

/-- `HeaderValue::to_str`: the text of a header whose bytes are visible ASCII or tabs. -/
def headerText (value : List UInt8) : Option String :=
  if value.all fun b => (32 ≤ b && b < 127) || b == 9 then
    some (String.ofList (value.map fun b => Char.ofNat b.toNat))
  else none

/-- The credentials `auth_middleware` stores with the request, from its first `Authorization` header. -/
def authMiddleware {ε : Type} (decode : Base64) (authorization : Option (List UInt8)) :
    Outcome ε (Option BasicAuthCredentials) :=
  match authorization.bind headerText with
  | none => .ok none
  | some authStr => parseBasicAuth decode authStr

def extractCreds (authType : Config.AuthType) (ext : Option BasicAuthCredentials) :
    Outcome GatewayError (Option BasicAuthCredentials) :=
  match authType with
  | .none => .ok none
  | .passthrough =>
    match ext with
    | none => Outcome.fail (.unauthorized "authentication required")
    | some creds => .ok (some creds)

/-! ## What the parser accepts -/

theorem slice_append {ε : Type} (front back : List Char) :
    (slice (front ++ back) (size front) : Outcome ε _) = .ok (front, back) := by
  simp [slice, cut_append]

/-- The text after the first colon. -/
theorem slice_after {ε : Type} (c : Char) (narrow : c.utf8Size = 1) (front back : List Char) :
    (slice (front ++ c :: back) (size front + 1) : Outcome ε _) = .ok (front ++ [c], back) := by
  have place : size (front ++ [c]) = size front + 1 := by simp [size, narrow]
  rw [← place, List.append_cons, slice_append]

/-- The credentials in a decoded text: a name that is not empty, the first colon, the password. -/
def credentialsOf (decoded : String) : Option BasicAuthCredentials :=
  match find ':' decoded.toList with
  | none => none
  | some colonPos =>
    (cut decoded.toList colonPos).bind fun (username, rest) =>
      if username.isEmpty then none else some ⟨String.ofList username, String.ofList rest.tail⟩

theorem credentialsOf_eq_some_iff (decoded u p : String) :
    credentialsOf decoded = some ⟨u, p⟩ ↔ decoded = u ++ ":" ++ p ∧ u ≠ "" ∧ ':' ∉ u.toList := by
  unfold credentialsOf
  constructor
  · intro accepted
    split at accepted
    next => cases accepted
    next colonPos found =>
      -- The text before the first colon has none.
      obtain ⟨front, back, text, fresh, rfl⟩ := (find_eq_some_iff ..).mp found
      rw [text, cut_append] at accepted
      simp only [Option.bind_some, List.tail_cons] at accepted
      split at accepted
      next => cases accepted
      next named =>
        obtain ⟨rfl, rfl⟩ := BasicAuthCredentials.mk.injEq .. ▸ Option.some.inj accepted
        refine ⟨String.toList_injective ?_, fun empty => named ?_, by simpa using fresh⟩
        · simp [text]
        · simpa using congrArg String.toList empty
  · rintro ⟨rfl, named, fresh⟩
    have found : find ':' (u ++ ":" ++ p).toList = some (size u.toList) :=
      (find_eq_some_iff ..).mpr ⟨u.toList, p.toList, by simp, fresh, rfl⟩
    have text : (u ++ ":" ++ p).toList = u.toList ++ ':' :: p.toList := by simp
    have filled : u.toList ≠ [] := fun empty => named (String.toList_injective empty)
    rw [found]
    simp [text, cut_append, filled]

/-- A header that does not begin with `Basic ` carries no credentials. -/
theorem parseBasicAuth_other {ε : Type} (decode : Base64) {headerValue : String}
    (other : scheme.isPrefixOf headerValue.toList = false) :
    (parseBasicAuth decode headerValue : Outcome ε _) = .ok none := by
  simp [parseBasicAuth, other]
  rfl

/-- One that does carries the credentials in what the rest of it decodes to. No slice is out of place. -/
theorem parseBasicAuth_basic {ε : Type} (decode : Base64) {headerValue : String} {encoded : List Char}
    (basic : headerValue.toList = scheme ++ encoded) :
    (parseBasicAuth decode headerValue : Outcome ε _) =
      .ok (((decode (String.ofList encoded)).bind fun bytes => String.fromUTF8? ⟨bytes.toArray⟩).bind
        credentialsOf) := by
  have starts : scheme.isPrefixOf headerValue.toList = true := by simp [basic]
  have header : (slice headerValue.toList 6 : Outcome ε _) = .ok (scheme, encoded) := by
    rw [basic]
    exact slice_append scheme encoded
  simp only [parseBasicAuth, starts, header, Bool.not_true, Bool.false_eq_true, if_false, bind, Except.bind]
  cases (decode (String.ofList encoded)).bind fun bytes => String.fromUTF8? ⟨bytes.toArray⟩ with
  | none => rfl
  | some decoded =>
    cases found : find ':' decoded.toList with
    | none => simp only [Option.bind_some, credentialsOf, found, pure, Except.pure]
    | some colonPos =>
      -- The colon is one byte wide, so both offsets fall between characters.
      obtain ⟨front, back, text, _, rfl⟩ := (find_eq_some_iff ..).mp found
      have before : (slice decoded.toList (size front) : Outcome ε _) = .ok (front, ':' :: back) := by
        rw [text, slice_append]
      have after : (slice decoded.toList (size front + 1) : Outcome ε _) = .ok (front ++ [':'], back) := by
        rw [text, slice_after ':' rfl]
      have parts : cut decoded.toList (size front) = some (front, ':' :: back) := by
        rw [text, cut_append]
      simp only [before, after, Option.bind_some, credentialsOf, found, parts, List.tail_cons]
      cases front.isEmpty <;> rfl

/-- Accepted credentials name a user. -/
theorem username_of_accepted {ε : Type} {decode : Base64} {headerValue u p : String}
    (accepted : (parseBasicAuth decode headerValue : Outcome ε _) = .ok (some ⟨u, p⟩)) : u ≠ "" := by
  cases starts : scheme.isPrefixOf headerValue.toList with
  | false =>
    rw [parseBasicAuth_other decode starts] at accepted
    cases accepted
  | true =>
    obtain ⟨encoded, text⟩ := List.isPrefixOf_iff_prefix.mp starts
    rw [parseBasicAuth_basic decode text.symm, Except.ok.injEq] at accepted
    obtain ⟨decoded, _, credentials⟩ := Option.bind_eq_some_iff.mp accepted
    exact ((credentialsOf_eq_some_iff ..).mp credentials).2.1

/-! ## Encoded credentials -/

theorem fromUTF8_eq_some_iff (bytes : List UInt8) (text : String) :
    String.fromUTF8? ⟨bytes.toArray⟩ = some text ↔ bytes = text.toUTF8.data.toList := by
  constructor
  · intro decoded
    unfold String.fromUTF8? at decoded
    split at decoded <;> cases decoded
    rfl
  · rintro rfl
    exact dif_pos text.isValidUTF8

theorem toList_basic (text : String) : ("Basic " ++ text).toList = scheme ++ text.toList :=
  String.toList_append ..

/-- What is accepted is the encoding of a name without a colon and a password. No slice is out of
place, whatever the header. -/
theorem parseBasicAuth_iff {ε : Type} {decode : Base64} (encode : List UInt8 → String)
    (canonical : ∀ text bytes, decode text = some bytes ↔ text = encode bytes) (h u p : String) :
    ((parseBasicAuth decode h : Outcome ε _) = .ok (some ⟨u, p⟩) ↔
      u ≠ "" ∧ ':' ∉ u.toList ∧ h = "Basic " ++ encode (u ++ ":" ++ p).toUTF8.data.toList) ∧
    ∃ result, (parseBasicAuth decode h : Outcome ε _) = .ok result := by
  have header : ∀ encoded, h = "Basic " ++ String.ofList encoded ↔ h.toList = scheme ++ encoded := by
    intro encoded
    rw [← String.toList_inj, toList_basic, String.toList_ofList]
  cases starts : scheme.isPrefixOf h.toList with
  | false =>
    rw [parseBasicAuth_other decode starts]
    refine ⟨iff_of_false (fun same => by cases same) ?_, _, rfl⟩
    -- An encoding would have begun with the scheme.
    rintro ⟨_, _, rfl⟩
    rw [toList_basic, List.isPrefixOf_iff_prefix.mpr (List.prefix_append ..)] at starts
    cases starts
  | true =>
    obtain ⟨encoded, text⟩ := List.isPrefixOf_iff_prefix.mp starts
    rw [parseBasicAuth_basic decode text.symm, Except.ok.injEq]
    refine ⟨?_, _, rfl⟩
    simp only [Option.bind_eq_some_iff, canonical, fromUTF8_eq_some_iff, credentialsOf_eq_some_iff]
    constructor
    · rintro ⟨decoded, ⟨bytes, same, rfl⟩, rfl, named, fresh⟩
      refine ⟨named, fresh, ?_⟩
      rw [← same]
      exact (header encoded).mpr text.symm
    · rintro ⟨named, fresh, same⟩
      refine ⟨_, ⟨_, ?_, rfl⟩, rfl, named, fresh⟩
      -- What follows the scheme is what was encoded.
      have toLists : h.toList = scheme ++ (encode (u ++ ":" ++ p).toUTF8.data.toList).toList := by
        rw [same, toList_basic]
      rw [← text] at toLists
      rw [List.append_cancel_left toLists, String.ofList_toList]

/-- A password with a colon in it. -/
theorem parseBasicAuth_iff_colon :
    ((parseBasicAuth (fun text => Base64.decode text.toList) "Basic dTpwOnE=" : Outcome Unit _) =
      .ok (some ⟨"u", "p:q"⟩) ↔ "u" ≠ "" ∧ ':' ∉ "u".toList ∧
        "Basic dTpwOnE=" = "Basic " ++
          String.ofList (Base64.encode ("u" ++ ":" ++ "p:q").toUTF8.data.toList)) ∧
    ∃ result, (parseBasicAuth (fun text => Base64.decode text.toList) "Basic dTpwOnE=" :
      Outcome Unit _) = .ok result := by
  refine parseBasicAuth_iff (String.ofList ∘ Base64.encode) (fun text bytes => ?_) _ _ _
  rw [Base64.decode_eq_some_iff, Function.comp_apply, ← String.toList_inj, String.toList_ofList]

end FlussGateway.Auth
