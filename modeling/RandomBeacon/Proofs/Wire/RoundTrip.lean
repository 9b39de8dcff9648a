import RandomBeacon.Proofs.Wire.Field

/-!
What goes over the wire is read back from its text. A form is faithful to its value if the text
that is written for it can be read and gives the value (`Faithful.read?_write`). A request has no
tag of its own, and needs none: no text is both an operation and a query.
-/

namespace RandomBeacon

namespace Wire

/-- The value is read back from its text. -/
def RoundTrips {α : Type} [Wire α] (a : α) : Prop := read? (write a) = some a

/-- The form of a value can be written and read exactly, and it is read as the value. -/
structure Faithful {α : Type} [Wire α] (a : α) : Prop where
  plain : (toJson a).isPlain = true
  exact : ofJson? (toJson a) = some a

theorem Faithful.roundTrips {α : Type} [Wire α] {a : α} (faithful : Faithful a) : RoundTrips a := by
  rw [RoundTrips, read?, write, Json.parse?_render faithful.plain, Option.bind_some,
    faithful.exact]

/-- The value is read back from its text on several lines too. -/
theorem Faithful.read?_pretty {α : Type} [Wire α] {a : α} (faithful : Faithful a) :
    read? (toJson a).pretty = some a := by
  rw [read?, Json.parse?_pretty faithful.plain, Option.bind_some, faithful.exact]

end Wire

open Wire Json

theorem ChainId.faithful (id : ChainId) : Faithful id := ⟨rfl, rfl⟩

theorem SubscriptionId.faithful (id : SubscriptionId) : Faithful id := ⟨rfl, rfl⟩

theorem RequestId.faithful (id : RequestId) : Faithful id := ⟨rfl, rfl⟩

theorem RegistrationId.faithful (id : RegistrationId) : Faithful id := ⟨rfl, rfl⟩

namespace Round

theorem toJson_plain (r : Round) : r.toJson.isPlain = true := by simp [toJson]

theorem ofJson?_toJson (r : Round) : ofJson? r.toJson = some r := by
  simp [ofJson?, toJson, fieldNames, fields?_record, List.lookup_cons, Field.required]

theorem faithful (r : Round) : Faithful r := ⟨r.toJson_plain, r.ofJson?_toJson⟩

end Round

theorem Randomness.faithful (r : Randomness) : Faithful r := by
  constructor <;>
    simp [Wire.toJson, Wire.ofJson?, fields?_record, List.lookup_cons, Field.required, text?]

theorem Lookup.faithful (l : Lookup) : Faithful l := by
  obtain ⟨round⟩ := l
  cases round with
  | none => exact ⟨rfl, by decide⟩
  | some r =>
    have known : nullable? Round.ofJson? r.toJson = some (some r) :=
      congrArg (Option.map some) r.ofJson?_toJson
    constructor <;>
      simp [Wire.toJson, Wire.ofJson?, fields?_record, List.lookup_cons, Field.optional, known,
        r.toJson_plain]

theorem Receipt.faithful (r : Receipt) : Faithful r := by
  obtain ⟨success, error, transaction⟩ := r
  -- A field without a value is left out, so there are four forms.
  cases error <;> cases transaction <;> constructor <;>
    simp [Wire.toJson, Wire.ofJson?, fields?_record, List.lookup_cons, Field.required,
      Field.optional, nullable?, bool?, text?]

theorem Account.faithful (a : Account) : Faithful a := by
  have balance : (Json.nat a.balance.toNat).natBelow? (Nat.pow 2 128) = some a.balance.toNat :=
    natBelow?_nat a.balance.isLt
  constructor <;>
    simp [Wire.toJson, Wire.ofJson?, fields?_record, List.lookup_cons, Field.required, text?,
      balance]

/-- A tag that stands before its content is read with it. -/
theorem tagged?_record (outer : Nat) (tag : String) (content : Json) :
    (record [("type", .text tag), ("data", content)]).tagged? outer = some (tag, content) := by
  have named : (record [("type", .text tag), ("data", content)]).namedFields? ["type", "data"] =
      some [some (.text tag), some content] := namedFields?_record _ (by simp)
  simp only [record, List.map_cons, List.map_nil] at named
  simp [record, tagged?, named, caseName?]

theorem Operation.faithful (op : Operation) : Faithful op := by
  cases op with
  | requestRandomness requestId timestamp =>
    constructor <;> simp [Wire.toJson, Wire.ofJson?, Operation.toJson, Operation.ofJson?,
      tagged?_record, namedFields?_record, List.lookup_cons, Field.required, text?]

theorem Query.faithful (q : Query) : Faithful q := by
  cases q with
  | getRandomness round =>
    constructor <;> simp [Wire.toJson, Wire.ofJson?, Query.toJson, Query.ofJson?,
      tagged?_record, namedFields?_record, List.lookup_cons, Field.required]

/-- What refuses every other tag has read its own. -/
theorem tagged?_eq_of_read {α : Type} {name : String} {content? : String × Json → Option α}
    {j : Json} {a : α} (refuses : ∀ tag content, tag ≠ name → content? (tag, content) = none)
    (read : (j.tagged? 0).bind content? = some a) :
    ∃ content, j.tagged? 0 = some (name, content) := by
  obtain ⟨⟨tag, content⟩, tagged, read⟩ := Option.bind_eq_some_iff.1 read
  by_cases is : tag = name
  · exact ⟨content, is ▸ tagged⟩
  · rw [refuses tag content is] at read
    cases read

theorem Operation.tagged?_eq {j : Json} {op : Operation} (read : ofJson? j = some op) :
    ∃ content, j.tagged? 0 = some ("RequestRandomness", content) :=
  tagged?_eq_of_read (fun tag content other => by simp [other]) read

theorem Query.tagged?_eq {j : Json} {q : Query} (read : ofJson? j = some q) :
    ∃ content, j.tagged? 0 = some ("GetRandomness", content) :=
  tagged?_eq_of_read (fun tag content other => by simp [other]) read

namespace Request

/-- No form is both an operation and a query: the tags differ. -/
theorem not_both (j : Json) : Operation.ofJson? j = none ∨ Query.ofJson? j = none := by
  cases operation : Operation.ofJson? j with
  | none => exact .inl rfl
  | some op =>
    cases query : Query.ofJson? j with
    | none => exact .inr rfl
    | some q =>
      obtain ⟨_, tagged⟩ := Operation.tagged?_eq operation
      obtain ⟨_, other⟩ := Query.tagged?_eq query
      simp [tagged] at other

/-- Reads a request with the choices in the other order. -/
def ofJsonQueryFirst? (j : Json) : Option Request := do
  let j ← j.hold? 0
  (Query.ofJson? j).map .query <|> (Operation.ofJson? j).map .operation

theorem ofJsonQueryFirst?_eq (j : Json) : ofJsonQueryFirst? j = Wire.ofJson? j := by
  simp only [ofJsonQueryFirst?, Wire.ofJson?]
  congr 1
  funext held
  rcases not_both held with none | none <;> simp [none]

theorem faithful (request : Request) : Faithful request := by
  cases request with
  | operation op =>
    have held : hold? 0 op.toJson = some op.toJson := by
      cases op with
      | requestRandomness requestId timestamp =>
        exact hold?_eq (by simp [Operation.toJson]) (by decide : 2 ≤ nestingLimit)
    have read : Operation.ofJson? op.toJson = some op := (Operation.faithful op).exact
    exact ⟨(Operation.faithful op).plain, by simp [Wire.ofJson?, Wire.toJson, held, read]⟩
  | query q =>
    have held : hold? 0 q.toJson = some q.toJson := by
      cases q with
      | getRandomness round =>
        exact hold?_eq (by simp [Query.toJson]) (by decide : 2 ≤ nestingLimit)
    have read : Query.ofJson? q.toJson = some q := (Query.faithful q).exact
    have unlike : Operation.ofJson? q.toJson = none :=
      (not_both q.toJson).resolve_right (by simp [read])
    exact ⟨(Query.faithful q).plain, by simp [Wire.ofJson?, Wire.toJson, held, read, unlike]⟩

end Request

/-- Every value of every type that goes over the wire is read back from its text. No text is read
both as an operation and as a query, so a request is the same in whichever order the two are
tried. -/
theorem Wire.every_value_is_read_back :
    (∀ r : Round, RoundTrips r) ∧ (∀ l : Lookup, RoundTrips l) ∧
    (∀ r : Randomness, RoundTrips r) ∧ (∀ op : Operation, RoundTrips op) ∧
    (∀ q : Query, RoundTrips q) ∧ (∀ request : Request, RoundTrips request) ∧
    (∀ r : Receipt, RoundTrips r) ∧ (∀ a : Account, RoundTrips a) ∧
    (∀ id : ChainId, RoundTrips id) ∧ (∀ id : SubscriptionId, RoundTrips id) ∧
    (∀ id : RequestId, RoundTrips id) ∧ (∀ id : RegistrationId, RoundTrips id) ∧
    (∀ text, (read? text : Option Operation) = none ∨ (read? text : Option Query) = none) ∧
    (∀ text, (Json.parse? text).bind Request.ofJsonQueryFirst? = read? text) := by
  refine ⟨fun a => a.faithful.roundTrips, fun a => a.faithful.roundTrips,
    fun a => a.faithful.roundTrips, fun a => a.faithful.roundTrips,
    fun a => a.faithful.roundTrips, fun a => a.faithful.roundTrips,
    fun a => a.faithful.roundTrips, fun a => a.faithful.roundTrips,
    fun a => a.faithful.roundTrips, fun a => a.faithful.roundTrips,
    fun a => a.faithful.roundTrips, fun a => a.faithful.roundTrips, fun text => ?_, fun text => ?_⟩
  · rw [read?, read?]
    cases Json.parse? text with
    | none => exact .inl rfl
    | some j => exact Request.not_both j
  · rw [read?]
    exact congrArg _ (funext Request.ofJsonQueryFirst?_eq)

/-- A missing round is written as null; what a receipt lacks is left out. -/
example : Wire.write ({} : Lookup) = "\x7b\"result\":null\x7d" ∧
    Wire.write (Receipt.accepted "tx") = "\x7b\"success\":true,\"transactionId\":\"tx\"\x7d" := by
  decide +kernel

end RandomBeacon
