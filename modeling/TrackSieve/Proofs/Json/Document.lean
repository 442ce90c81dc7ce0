import TrackSieve.Json.Document
import TrackSieve.Proofs.Json.Token

/-!
# Written documents read back

The text of a value is cut into the tokens it was written from, since a number is only followed by
a comma, by a bracket or by the end. Those tokens leave the value in the frame that was open before
them, by induction on the value. So every value whose numbers are spellable is read back.
-/

namespace TrackSieve.Json

open Token (Boundary)

/-- A value that can stand in a document: all its numbers are spelled as JSON demands. -/
def Spellable (j : Json) : Prop := ∀ t ∈ j.tokens, t.Spellable

/-! ### Tokens of a text -/

/-- Tokens that are found again in a text, in front of some other text. -/
def Lexed (ts : List Token) (rest : List Char) : Prop :=
  Token.lex? (ts.flatMap Token.chars ++ rest) = (Token.lex? rest).map (ts ++ ·)

section Lexed

variable {t : Token} {ts us : List Token} {rest : List Char}

theorem Lexed.cons_of_spellable (ht : t.Spellable) (h : Lexed ts rest)
    (hends : t.Ends (ts.flatMap Token.chars ++ rest)) : Lexed (t :: ts) rest := by
  rw [Lexed, List.flatMap_cons, List.append_assoc, Token.lex?_chars_append ht hends, h,
    Option.map_map]
  rfl

/-- Any text may follow a token that is not a number. -/
theorem Lexed.cons (h : Lexed ts rest) (t : Token) (ht : ∀ n, t ≠ .number n) :
    Lexed (t :: ts) rest :=
  h.cons_of_spellable (by cases t <;> simp_all [Token.Spellable]) fun n hn => absurd hn (ht n)

theorem Lexed.append (h : Lexed ts (us.flatMap Token.chars ++ rest)) (h' : Lexed us rest) :
    Lexed (ts ++ us) rest := by
  rw [Lexed, List.flatMap_append, List.append_assoc, h, h', Option.map_map]
  congr 1
  funext vs
  exact (List.append_assoc ts us vs).symm

theorem lexed_nil (rest : List Char) : Lexed [] rest := by
  cases h : Token.lex? rest <;> simp [Lexed, h]

theorem lexed_singleton (t : Token) (ht : ∀ n, t ≠ .number n) : Lexed [t] rest :=
  (lexed_nil rest).cons t ht

/-- A token that separates or closes does not continue a number. -/
theorem boundary_flatMap (ht : t = .comma ∨ t = .closeArray ∨ t = .closeObject)
    (ts : List Token) (rest : List Char) : Boundary ((t :: ts).flatMap Token.chars ++ rest) := by
  rcases ht with rfl | rfl | rfl <;> rintro c ⟨⟩ <;> decide

end Lexed

mutual

/-- The tokens of a value are found again in its text. -/
theorem lexed_tokens : ∀ (j : Json) (rest : List Char), (∀ t ∈ tokens j, t.Spellable) →
    Boundary rest → Lexed (tokens j) rest
  | .null, _, _, _ => lexed_singleton .null nofun
  | .bool b, _, _, _ => lexed_singleton (.bool b) nofun
  | .number _, rest, h, hrest =>
    (lexed_nil rest).cons_of_spellable (h _ (by simp [tokens])) fun _ _ => hrest
  | .string s, _, _, _ => lexed_singleton (.string s) nofun
  | .array items, rest, h, _ => by
    simp only [tokens] at h ⊢
    have hitems := lexed_tokensOfItems items (Token.chars .closeArray ++ rest)
      (fun t ht => h t (by simp [ht])) (boundary_flatMap (.inr (.inl rfl)) [] rest)
    exact (hitems.append (lexed_singleton .closeArray nofun)).cons .openArray nofun
  | .object members, rest, h, _ => by
    simp only [tokens] at h ⊢
    have hmembers := lexed_tokensOfMembers members (Token.chars .closeObject ++ rest)
      (fun t ht => h t (by simp [ht])) (boundary_flatMap (.inr (.inr rfl)) [] rest)
    exact (hmembers.append (lexed_singleton .closeObject nofun)).cons .openObject nofun

theorem lexed_tokensOfItems : ∀ (items : List Json) (rest : List Char),
    (∀ t ∈ tokensOfItems items, t.Spellable) → Boundary rest → Lexed (tokensOfItems items) rest
  | [], rest, _, _ => lexed_nil rest
  | [item], rest, h, hrest => lexed_tokens item rest h hrest
  | item :: item' :: items, rest, h, hrest => by
    simp only [tokensOfItems] at h ⊢
    have hitems := lexed_tokensOfItems (item' :: items) rest (fun t ht => h t (by simp [ht])) hrest
    -- the comma keeps the item from running into the next one
    have hitem := lexed_tokens item _ (fun t ht => h t (by simp [ht]))
      (boundary_flatMap (.inl rfl) (tokensOfItems (item' :: items)) rest)
    exact hitem.append (hitems.cons .comma nofun)

theorem lexed_tokensOfMembers : ∀ (members : List (Literal × Json)) (rest : List Char),
    (∀ t ∈ tokensOfMembers members, t.Spellable) → Boundary rest →
    Lexed (tokensOfMembers members) rest
  | [], rest, _, _ => lexed_nil rest
  | [(key, value)], rest, h, hrest => by
    simp only [tokensOfMembers] at h ⊢
    have hvalue := lexed_tokens value rest (fun t ht => h t (by simp [ht])) hrest
    exact (hvalue.cons .colon nofun).cons (.string key) nofun
  | (key, value) :: member :: members, rest, h, hrest => by
    simp only [tokensOfMembers] at h ⊢
    have hmembers := lexed_tokensOfMembers (member :: members) rest
      (fun t ht => h t (by simp [ht])) hrest
    have hvalue := lexed_tokens value _ (fun t ht => h t (by simp [ht]))
      (boundary_flatMap (.inl rfl) (tokensOfMembers (member :: members)) rest)
    have happend := hvalue.append (hmembers.cons .comma nofun)
    exact (happend.cons .colon nofun).cons (.string key) nofun

end

/-! ### Values of tokens -/

/-- A frame that takes a value does not take a string for a key. -/
theorem step_string {s : Literal} {frames frames' : List Frame}
    (h : give (.string s) frames = some frames') : step frames (.string s) = some frames' := by
  unfold give at h
  split at h <;> cases h <;> rfl

mutual

/-- The tokens of a value hand the value to the frame that is open before them. -/
theorem foldlM_tokens : ∀ (j : Json) {frames frames' : List Frame} (rest : List Token),
    give j frames = some frames' →
    (tokens j ++ rest).foldlM step frames = rest.foldlM step frames'
  | .null, _, _, rest, h => by simp [tokens, step, h]
  | .bool _, _, _, rest, h => by simp [tokens, step, h]
  | .number _, _, _, rest, h => by simp [tokens, step, h]
  | .string s, frames, frames', rest, h => by
    simp [tokens, step_string h]
  | .array [], _, _, rest, h => by simp [tokens, tokensOfItems, step, h]
  | .array (item :: items), frames, frames', rest, h => by
    -- the bracket opens an empty array, the items fill it, and closing it turns their order around
    have hitems := foldlM_tokensOfItems (item :: items) [] (.array []) frames
      (.closeArray :: rest) (List.cons_ne_nil _ _) fun _ => rfl
    simp only [tokens, List.cons_append, List.foldlM_cons, step, Option.bind_eq_bind,
      Option.bind_some, List.append_assoc, List.nil_append]
    rw [hitems, List.append_nil, List.foldlM_cons]
    simp only [step, List.reverse_reverse, h, Option.bind_eq_bind, Option.bind_some]
  | .object [], _, _, rest, h => by simp [tokens, tokensOfMembers, step, h]
  | .object (member :: members), frames, frames', rest, h => by
    have hmembers := foldlM_tokensOfMembers (member :: members) [] (.object []) frames
      (.closeObject :: rest) (List.cons_ne_nil _ _) fun _ => rfl
    simp only [tokens, List.cons_append, List.foldlM_cons, step, Option.bind_eq_bind,
      Option.bind_some, List.append_assoc, List.nil_append]
    rw [hmembers, List.append_nil, List.foldlM_cons]
    simp only [step, List.reverse_reverse, h, Option.bind_eq_bind, Option.bind_some]

/-- The tokens of items leave an open array with these items, if it takes the first of them. -/
theorem foldlM_tokensOfItems : ∀ (items acc : List Json) (s : Frame) (frames : List Frame)
    (rest : List Token), items ≠ [] →
    (∀ j, give j (s :: frames) = some (.array (j :: acc) :: frames)) →
    (tokensOfItems items ++ rest).foldlM step (s :: frames) =
      rest.foldlM step (.array (items.reverse ++ acc) :: frames)
  | [], _, _, _, _, hne, _ => absurd rfl hne
  | [item], acc, s, frames, rest, _, h => by
    rw [tokensOfItems, foldlM_tokens item rest (h item)]
    rfl
  | item :: item' :: items, acc, s, frames, rest, _, h => by
    have hitems := foldlM_tokensOfItems (item' :: items) (item :: acc) (.nextItem (item :: acc))
      frames rest (List.cons_ne_nil _ _) fun _ => rfl
    simp only [tokensOfItems, List.append_assoc, List.cons_append]
    rw [foldlM_tokens item _ (h item), List.foldlM_cons]
    simp only [step, Option.bind_eq_bind, Option.bind_some]
    rw [hitems]
    simp

/-- The tokens of members leave an open object with these members, if it takes the first key. -/
theorem foldlM_tokensOfMembers : ∀ (members acc : List (Literal × Json)) (s : Frame)
    (frames : List Frame) (rest : List Token), members ≠ [] →
    (∀ key, step (s :: frames) (.string key) = some (.colon acc key :: frames)) →
    (tokensOfMembers members ++ rest).foldlM step (s :: frames) =
      rest.foldlM step (.object (members.reverse ++ acc) :: frames)
  | [], _, _, _, _, hne, _ => absurd rfl hne
  | [(key, value)], acc, s, frames, rest, _, h => by
    rw [tokensOfMembers, List.cons_append, List.cons_append, List.foldlM_cons, h]
    simp only [List.foldlM_cons, step, Option.bind_eq_bind, Option.bind_some]
    rw [foldlM_tokens value rest rfl]
    rfl
  | (key, value) :: member :: members, acc, s, frames, rest, _, h => by
    -- behind the comma the object awaits a key, which it takes like the first one
    have hmembers := foldlM_tokensOfMembers (member :: members) ((key, value) :: acc)
      (.nextKey ((key, value) :: acc)) frames rest (List.cons_ne_nil _ _) fun _ => rfl
    simp only [tokensOfMembers, List.cons_append, List.append_assoc]
    rw [List.foldlM_cons, h]
    simp only [List.foldlM_cons, step, Option.bind_eq_bind, Option.bind_some]
    rw [foldlM_tokens value _ rfl, List.foldlM_cons]
    simp only [step, Option.bind_eq_bind, Option.bind_some]
    rw [hmembers]
    simp

end

theorem ofTokens?_tokens (j : Json) : ofTokens? j.tokens = some j := by
  have h := foldlM_tokens j [] (show give j [.start] = some [.done j] from rfl)
  rw [List.append_nil] at h
  rw [ofTokens?, h]
  rfl

/-- **A written document is read back**, provided that its numbers are spellable. -/
theorem parse?_write {j : Json} (h : j.Spellable) : parse? j.write = some j := by
  have hlexed := lexed_tokens j [] h Token.boundary_nil
  rw [Lexed, List.append_nil, Token.lex?] at hlexed
  rw [parse?, write, String.toList_ofList, hlexed]
  simp only [Option.map_some, List.append_nil, Option.bind_some, ofTokens?_tokens]

end TrackSieve.Json
