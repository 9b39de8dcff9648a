import RandomBeacon.Proofs.Json.Lexeme

/-!
Printed JSON is read back. The printer writes the tokens of a value, without space
(`spells_chars`) or with each item on a line of its own (`spells_prettyChars`), and the tokens of a
value are read as that value and no other (`value?_tokens`), so a text that the printer writes is
read as the value that it was written for (`parse?_render`, `parse?_pretty`).
-/

namespace RandomBeacon.Json

mutual

/-- Whether a value is made of what can be written and read exactly: whole numbers, and strings
and members that have a text. -/
def isPlain : Json → Bool
  | .broken | .decimal _ => false
  | .array items => itemsPlain items
  | .object members => membersPlain members
  | .null | .bool _ | .integer _ _ | .text _ => true

def itemsPlain : List Json → Bool
  | [] => true
  | item :: rest => item.isPlain && itemsPlain rest

def membersPlain : List (Option String × Json) → Bool
  | [] => true
  | (name, value) :: rest => name.isSome && value.isPlain && membersPlain rest

end

mutual

/-- The tokens of a value. -/
def tokens : Json → List Token
  | .null => [.null]
  | .bool b => [.bool b]
  | .integer negative magnitude => [.integer negative magnitude]
  | .decimal numeral => [.decimal numeral]
  | .text s => [.text (some s)]
  | .broken => [.text none]
  | .array items => .openArray :: itemsTokens items ++ [.closeArray]
  | .object members => .openObject :: membersTokens members ++ [.closeObject]

def itemsTokens : List Json → List Token
  | [] => []
  | [item] => item.tokens
  | item :: rest => item.tokens ++ .comma :: itemsTokens rest

def membersTokens : List (Option String × Json) → List Token
  | [] => []
  | [(name, value)] => .text name :: .colon :: value.tokens
  | (name, value) :: rest =>
    .text name :: .colon :: value.tokens ++ .comma :: membersTokens rest

end

namespace Token

/-- A text is scanned as these tokens, whatever follows that cannot belong to a number at its
end. A step takes one token or one blank, so there are no more steps than characters. -/
def Spells (written : List Char) (tokens : List Token) : Prop :=
  ∃ steps ≤ written.length, ∀ fuel rest, Stops rest →
    scan? (steps + fuel) (written ++ rest) = (scan? fuel rest).map (tokens ++ ·)

/-- The scanner takes one token at a time. -/
theorem scan?_token {c : Char} {s rest : List Char} {token : Token} (dense : isSpace c = false)
    (read : head? (c :: s) = some (token, rest)) (fuel : Nat) :
    scan? (fuel + 1) (c :: s) = (scan? fuel rest).map (token :: ·) := by
  simp only [scan?, dense, read, Bool.false_eq_true, if_false, Option.bind_eq_bind,
    Option.bind_some]
  cases scan? fuel rest <;> rfl

/-- A text that is one token. -/
theorem spells_token {c : Char} {s : List Char} {token : Token} (dense : isSpace c = false)
    (read : ∀ rest, Stops rest → head? (c :: s ++ rest) = some (token, rest)) :
    Spells (c :: s) [token] := by
  refine ⟨1, Nat.succ_le_succ (Nat.zero_le _), fun fuel rest stops => ?_⟩
  rw [Nat.add_comm]
  exact scan?_token dense (read rest stops) fuel

theorem spells_nil : Spells [] [] := by
  refine ⟨0, Nat.le_refl 0, fun fuel rest _ => ?_⟩
  rw [Nat.zero_add, List.nil_append]
  cases scan? fuel rest <;> rfl

/-- A mark of punctuation before a text. -/
theorem Spells.cons {c : Char} {s : List Char} {token : Token} {tokens : List Token}
    (spells : Spells s tokens) (dense : isSpace c = false)
    (read : ∀ rest, head? (c :: rest) = some (token, rest)) :
    Spells (c :: s) (token :: tokens) := by
  obtain ⟨steps, few, scans⟩ := spells
  refine ⟨steps + 1, Nat.succ_le_succ few, fun fuel rest stops => ?_⟩
  rw [Nat.add_right_comm, List.cons_append, scan?_token dense (read _), scans fuel rest stops,
    Option.map_map]
  rfl

/-- A blank before a text. -/
theorem Spells.spaced {c : Char} {s : List Char} {tokens : List Token} (spells : Spells s tokens)
    (space : isSpace c = true) : Spells (c :: s) tokens := by
  obtain ⟨steps, few, scans⟩ := spells
  refine ⟨steps + 1, Nat.succ_le_succ few, fun fuel rest stops => ?_⟩
  rw [Nat.add_right_comm, List.cons_append, scan?, if_pos space, scans fuel rest stops]

/-- A text on a new line. -/
theorem Spells.newline {s : List Char} {tokens : List Token} (spells : Spells s tokens)
    (depth : Nat) : Spells (newline depth ++ s) tokens := by
  have indented (n : Nat) : Spells (List.replicate n ' ' ++ s) tokens := by
    induction n with
    | zero => exact spells
    | succ n ih => exact ih.spaced (by decide)
  exact (indented (2 * depth)).spaced (by decide)

/-- A text that goes on with something that belongs to no number. -/
theorem Spells.append {a b : List Char} {c : Char} {first later : List Token}
    (before : Spells a first) (after : Spells (c :: b) later)
    (mark : c.isDigit = false ∧ c ≠ '.' ∧ c ≠ 'e' ∧ c ≠ 'E') :
    Spells (a ++ c :: b) (first ++ later) := by
  obtain ⟨steps, few, scans⟩ := before
  obtain ⟨steps', few', scans'⟩ := after
  refine ⟨steps + steps', ?_, fun fuel rest stops => ?_⟩
  · rw [List.length_append]
    exact Nat.add_le_add few few'
  have next : Stops (c :: b ++ rest) := by
    intro d is
    obtain rfl := Option.some.inj is
    exact mark
  rw [Nat.add_assoc, List.append_assoc, scans _ _ next, scans' fuel rest stops, Option.map_map]
  congr 1
  funext more
  exact (List.append_assoc _ _ _).symm

theorem spells_quoted (s : String) : Spells (quoted s.toList) [.text (some s)] :=
  spells_token (by decide) fun rest _ => by
    have read := head?_quoted s.toList rest
    rwa [String.ofList_toList] at read

theorem spells_integer (negative : Bool) (n : Nat) :
    Spells ((if negative then ['-'] else []) ++ digits n) [.integer negative n] := by
  have read (rest : List Char) (stops : Stops rest) := head?_integer negative n stops
  cases negative with
  | true => exact spells_token (by decide) read
  | false =>
    cases written : digits n with
    | nil => exact absurd written Nat.toDigits_ne_nil
    | cons c s =>
      have digit : c.isDigit = true := by
        have mem : c ∈ digits n := written ▸ List.mem_cons_self
        exact Nat.isDigit_of_mem_toDigits (by decide) (by decide) mem
      have dense : isSpace c = false := by
        by_contra space
        simp only [isSpace, Bool.or_eq_true, decide_eq_true_eq, Bool.not_eq_false] at space
        rcases space with ((rfl | rfl) | rfl) | rfl <;> cases digit
      refine spells_token dense fun rest stops => ?_
      have read := read rest stops
      rwa [written] at read

section Marks

variable {a b : List Char} {first later : List Token}

theorem Spells.comma (before : Spells a first) (after : Spells b later) :
    Spells (a ++ ',' :: b) (first ++ .comma :: later) :=
  before.append (after.cons (by decide) fun _ => rfl) (by decide)

theorem Spells.member (name : String) (value : Spells a first) :
    Spells (quoted name.toList ++ ':' :: a) (.text (some name) :: .colon :: first) :=
  (spells_quoted name).append (value.cons (by decide) fun _ => rfl) (by decide)

/-- A member on a line of its own, with a blank before its value. -/
theorem Spells.prettyMember (depth : Nat) (name : String) (value : Spells a first) :
    Spells (Json.newline depth ++ quoted name.toList ++ [':', ' '] ++ a)
      (.text (some name) :: .colon :: first) := by
  have own := (Spells.member name (value.spaced (c := ' ') (by decide))).newline depth
  simpa using own

/-- What stands between brackets, each part of it on a line of its own. -/
theorem Spells.block {opening closing : Char} {opens closes : Token} (inside : Spells a first)
    (depth : Nat) (dense : isSpace opening = false ∧ isSpace closing = false)
    (opened : ∀ rest, head? (opening :: rest) = some (opens, rest))
    (closed : ∀ rest, head? (closing :: rest) = some (closes, rest)) :
    Spells (opening :: a ++ Json.newline depth ++ [closing]) (opens :: first ++ [closes]) := by
  have ends : Spells (Json.newline depth ++ [closing]) [closes] :=
    (spells_nil.cons dense.2 closed).newline depth
  have whole := (inside.append ends (by decide)).cons dense.1 opened
  simpa [Json.newline] using whole

end Marks

end Token

open Token

mutual

/-- The printer writes the tokens of a value. -/
theorem spells_chars : (j : Json) → j.isPlain = true → Spells j.chars j.tokens
  | .null, _ => spells_token (by decide) fun _ _ => rfl
  | .bool true, _ => spells_token (by decide) fun _ _ => rfl
  | .bool false, _ => spells_token (by decide) fun _ _ => rfl
  | .integer negative n, _ => spells_integer negative n
  | .text s, _ => spells_quoted s
  | .array items, plain => by
    have closes : Spells [']'] [.closeArray] := spells_nil.cons (by decide) fun _ => rfl
    rw [chars, tokens]
    exact ((spells_itemsChars items plain).append closes (by decide)).cons (by decide) fun _ => rfl
  | .object members, plain => by
    have closes : Spells ['}'] [.closeObject] := spells_nil.cons (by decide) fun _ => rfl
    rw [chars, tokens]
    exact ((spells_membersChars members plain).append closes (by decide)).cons (by decide)
      fun _ => rfl

theorem spells_itemsChars : (items : List Json) → itemsPlain items = true →
    Spells (itemsChars items) (itemsTokens items)
  | [], _ => spells_nil
  | [item], plain => by
    rw [itemsPlain, Bool.and_eq_true] at plain
    exact spells_chars item plain.1
  | item :: next :: rest, plain => by
    rw [itemsPlain, Bool.and_eq_true] at plain
    exact (spells_chars item plain.1).comma (spells_itemsChars (next :: rest) plain.2)

theorem spells_membersChars : (members : List (Option String × Json)) →
    membersPlain members = true → Spells (membersChars members) (membersTokens members)
  | [], _ => spells_nil
  | [(some name, value)], plain => by
    rw [membersPlain, Bool.and_eq_true] at plain
    exact .member name (spells_chars value (by simpa using plain.1))
  | (some name, value) :: next :: rest, plain => by
    rw [membersPlain, Bool.and_eq_true] at plain
    exact (Spells.member name (spells_chars value (by simpa using plain.1))).comma
      (spells_membersChars (next :: rest) plain.2)

end

mutual

/-- The printer writes the same tokens when it gives each item and member a line of its own. -/
theorem spells_prettyChars (depth : Nat) : (j : Json) → j.isPlain = true →
    Spells (j.prettyChars depth) j.tokens
  | .null, plain | .bool _, plain | .integer _ _, plain | .text _, plain
  | .array [], plain | .object [], plain => spells_chars _ plain
  | .array (item :: items), plain =>
    (spells_prettyItems (depth + 1) (item :: items) plain).block depth (by decide)
      (fun _ => rfl) fun _ => rfl
  | .object (member :: members), plain =>
    (spells_prettyMembers (depth + 1) (member :: members) plain).block depth (by decide)
      (fun _ => rfl) fun _ => rfl

theorem spells_prettyItems (depth : Nat) : (items : List Json) → itemsPlain items = true →
    Spells (prettyItems depth items) (itemsTokens items)
  | [], _ => spells_nil
  | [item], plain => by
    rw [itemsPlain, Bool.and_eq_true] at plain
    exact (spells_prettyChars depth item plain.1).newline depth
  | item :: next :: rest, plain => by
    rw [itemsPlain, Bool.and_eq_true] at plain
    exact ((spells_prettyChars depth item plain.1).newline depth).comma
      (spells_prettyItems depth (next :: rest) plain.2)

theorem spells_prettyMembers (depth : Nat) : (members : List (Option String × Json)) →
    membersPlain members = true → Spells (prettyMembers depth members) (membersTokens members)
  | [], _ => spells_nil
  | [(some name, value)], plain => by
    rw [membersPlain, Bool.and_eq_true] at plain
    exact .prettyMember depth name (spells_prettyChars depth value (by simpa using plain.1))
  | (some name, value) :: next :: rest, plain => by
    rw [membersPlain, Bool.and_eq_true] at plain
    have first := spells_prettyChars depth value (by simpa using plain.1)
    exact (first.prettyMember depth name).comma
      (spells_prettyMembers depth (next :: rest) plain.2)

end

namespace Token

variable {fuel : Nat} {tokens rest : List Token}

theorem items?_closeArray (fuel : Nat) (rest : List Token) :
    items? fuel (.closeArray :: rest) = none := by
  cases fuel with
  | zero => rw [items?]
  | succ fuel => cases fuel <;> simp [items?, value?]

theorem members?_closeObject (fuel : Nat) (rest : List Token) :
    members? fuel (.closeObject :: rest) = none := by
  cases fuel <;> simp [members?]

theorem value?_openArray {items : List Json} (read : items? fuel tokens = some (items, rest)) :
    value? (fuel + 1) (.openArray :: tokens) = some (.array items, rest) := by
  rw [value?, read]
  · rfl
  · rintro more rfl
    rw [items?_closeArray] at read
    cases read

theorem value?_openObject {members : List (Option String × Json)}
    (read : members? fuel tokens = some (members, rest)) :
    value? (fuel + 1) (.openObject :: tokens) = some (.object members, rest) := by
  rw [value?, read]
  · rfl
  · rintro more rfl
    rw [members?_closeObject] at read
    cases read

end Token

mutual

/-- The tokens of a value are read as that value, whatever follows them. -/
theorem value?_tokens : (j : Json) → (fuel : Nat) → (rest : List Token) →
    j.tokens.length ≤ fuel → value? fuel (j.tokens ++ rest) = some (j, rest)
  | .null, fuel + 1, _, _ | .bool _, fuel + 1, _, _ | .integer _ _, fuel + 1, _, _
  | .decimal _, fuel + 1, _, _ | .text _, fuel + 1, _, _ | .broken, fuel + 1, _, _
  | .array [], fuel + 1, _, _ | .object [], fuel + 1, _, _ => rfl
  | .array (item :: items), fuel + 1, rest, enough => by
    simp only [tokens, List.length_cons, List.length_append, List.length_nil] at enough
    have read := items?_tokens item items fuel rest (by omega)
    simpa [tokens] using value?_openArray read
  | .object (member :: members), fuel + 1, rest, enough => by
    simp only [tokens, List.length_cons, List.length_append, List.length_nil] at enough
    have read := members?_tokens member members fuel rest (by omega)
    simpa [tokens] using value?_openObject read

theorem items?_tokens : (item : Json) → (items : List Json) → (fuel : Nat) →
    (rest : List Token) → (itemsTokens (item :: items)).length < fuel →
    items? fuel (itemsTokens (item :: items) ++ .closeArray :: rest) = some (item :: items, rest)
  | item, [], fuel + 1, rest, enough => by
    have read := value?_tokens item fuel (.closeArray :: rest) (Nat.le_of_lt_succ enough)
    simp [items?, itemsTokens, read]
  | item, next :: items, fuel + 1, rest, enough => by
    simp only [itemsTokens, List.length_append, List.length_cons] at enough
    have first := value?_tokens item fuel
      (.comma :: itemsTokens (next :: items) ++ .closeArray :: rest) (by omega)
    have later := items?_tokens next items fuel rest (by omega)
    rw [List.cons_append] at first
    simp [items?, itemsTokens, first, later]

theorem members?_tokens : (member : Option String × Json) →
    (members : List (Option String × Json)) → (fuel : Nat) → (rest : List Token) →
    (membersTokens (member :: members)).length < fuel →
    members? fuel (membersTokens (member :: members) ++ .closeObject :: rest) =
      some (member :: members, rest)
  | (name, value), [], fuel + 1, rest, enough => by
    simp only [membersTokens, List.length_cons] at enough
    have read := value?_tokens value fuel (.closeObject :: rest) (by omega)
    simp [members?, membersTokens, read]
  | (name, value), next :: members, fuel + 1, rest, enough => by
    simp only [membersTokens, List.length_append, List.length_cons] at enough
    have first := value?_tokens value fuel
      (.comma :: membersTokens (next :: members) ++ .closeObject :: rest) (by omega)
    have later := members?_tokens next members fuel rest (by omega)
    rw [List.cons_append] at first
    simp [members?, membersTokens, first, later]

end

/-- A text that spells the tokens of a value is read as that value. -/
theorem ofChars?_of_spells {written : List Char} {j : Json} (spells : Spells written j.tokens) :
    ofChars? written = some j := by
  obtain ⟨steps, few, scans⟩ := spells
  have scanned : scan? written.length written = some j.tokens := by
    have whole := scans (written.length - steps) [] (by rintro c ⟨⟩)
    rw [Nat.add_sub_cancel' few, List.append_nil, scan?] at whole
    simpa using whole
  have read := value?_tokens j (2 * j.tokens.length + 1) [] (by omega)
  rw [List.append_nil] at read
  simp [ofChars?, scanned, read]

variable {j : Json}

/-- A plain value is read back from the text that is written for it. -/
theorem parse?_render (plain : j.isPlain = true) : parse? j.render = some j := by
  rw [parse?, render, String.toList_ofList]
  exact ofChars?_of_spells (spells_chars j plain)

/-- It is read back as well from its text on several lines. -/
theorem parse?_pretty (plain : j.isPlain = true) : parse? j.pretty = some j := by
  rw [parse?, pretty, String.toList_ofList]
  exact ofChars?_of_spells (spells_prettyChars 0 j plain)

end RandomBeacon.Json
