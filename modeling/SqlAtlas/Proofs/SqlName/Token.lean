/-
SqlAtlas.Proofs.SqlName.Token — the tokens of a text, and the edits that keep
them.

Parentheses, brackets and commas are tokens of their own, whether blanks stand
around them or not; the words between them are tokens in small letters. So a
text that is only restyled, in the case of its ASCII letters or in its blanks,
has the same tokens (`tokens_eq_of_restyled`), well-formed or not.

The way back is what readers need. A mark among the tokens is a mark of the text
and parts its tokens (`exists_of_tokens_eq_append`), and a single token is the
trimmed text in small letters (`lowerAscii_trim_of_tokens`). So a reader that
takes nothing but solid texts, in any letter case, depends on the tokens only
(`apply_trim_eq_of_tokens`).
-/
import Mathlib.Logic.Relation
import SqlAtlas.Proofs.Text.Ascii
import SqlAtlas.Proofs.Text.Blank
import SqlAtlas.Proofs.Text.Words

namespace SqlAtlas.SqlName

open Text (IsBlanks isBlank lowerAscii pieces sameIgnoringCase trim words)

/-! ## 1. Restyled texts -/

/-- The characters that take a name apart. -/
def marks : List Char := ['(', ')', ',', '[', ']']

def isMark (c : Char) : Bool := marks.contains c

/-- One edit in the looks of a text: other cases of its ASCII letters, blanks
around it or next to a mark, or a run of blanks in the place of another. -/
inductive Restyled : List Char → List Char → Prop
  | letters {s t : List Char} (h : sameIgnoringCase s t = true) : Restyled s t
  | ends {s b e : List Char} (hb : IsBlanks b) (he : IsBlanks e) : Restyled s (b ++ s ++ e)
  | before {s t b : List Char} {m : Char} (hm : isMark m = true) (hb : IsBlanks b) :
      Restyled (s ++ m :: t) (s ++ b ++ m :: t)
  | behind {s t b : List Char} {m : Char} (hm : isMark m = true) (hb : IsBlanks b) :
      Restyled (s ++ m :: t) (s ++ m :: (b ++ t))
  | run {s t b e : List Char} (hb : IsBlanks b) (hbne : b ≠ []) (he : IsBlanks e)
      (hene : e ≠ []) : Restyled (s ++ b ++ t) (s ++ e ++ t)

/-! ## 2. Tokens -/

/-- A mark with blanks around it, and any other character in small form. -/
def spread (c : Char) : List Char := if isMark c then [' ', c, ' '] else [c.toLower]

/-- The marks of a text, and the words between them in small letters. -/
def tokens (s : List Char) : List (List Char) := words (s.flatMap spread)

/-- What holds of the five marks holds of every mark. -/
theorem of_isMark {p : Char → Prop} (hp : ∀ m ∈ marks, p m) {m : Char} (h : isMark m = true) :
    p m := hp m (List.contains_iff_mem.mp h)

theorem isMark_toLower (c : Char) : isMark c.toLower = isMark c :=
  Text.apply_toLower (by decide +kernel) c

theorem isBlank_toLower (c : Char) : isBlank c.toLower = isBlank c :=
  Text.apply_toLower (by decide +kernel) c

theorem spread_of_isBlank {c : Char} (h : isBlank c = true) : spread c = [c] := by
  have hall : ∀ n ∈ Text.blankCodes, spread (Char.ofNat n) = [Char.ofNat n] := by decide +kernel
  simpa using hall c.toNat (Text.isBlank_iff.mp h)

theorem flatMap_spread_blanks {b : List Char} (h : IsBlanks b) : b.flatMap spread = b := by
  induction b with
  | nil => rfl
  | cons c b ih =>
      obtain ⟨hc, hb⟩ := List.forall_mem_cons.mp h
      rw [List.flatMap_cons, spread_of_isBlank hc, ih hb, List.singleton_append]

/-- Blanks in front of a text are no tokens. -/
theorem tokens_blanks_append {b : List Char} (h : IsBlanks b) (s : List Char) :
    tokens (b ++ s) = tokens s := by
  rw [tokens, List.flatMap_append, flatMap_spread_blanks h, Text.words_blanks_append h, tokens]

theorem tokens_append_blanks (s : List Char) {b : List Char} (h : IsBlanks b) :
    tokens (s ++ b) = tokens s := by
  rw [tokens, List.flatMap_append, flatMap_spread_blanks h, Text.words_append_blanks _ h, tokens]

theorem tokens_of_isBlanks {b : List Char} (h : IsBlanks b) : tokens b = [] := by
  rw [tokens, flatMap_spread_blanks h, Text.words_eq_nil h]

theorem tokens_trim (s : List Char) : tokens (trim s) = tokens s := by
  obtain ⟨b, e, hs, hb, he⟩ := Text.exists_trim s
  have htokens := tokens_append_blanks (b ++ trim s) he
  rwa [← hs, tokens_blanks_append hb, eq_comm] at htokens

/-- Between blanks tokens end and begin. -/
theorem tokens_append_gap {b : List Char} (h : IsBlanks b) (hne : b ≠ []) (s t : List Char) :
    tokens (s ++ b ++ t) = tokens s ++ tokens t := by
  obtain ⟨c, b, rfl⟩ := List.exists_cons_of_ne_nil hne
  obtain ⟨hc, hb⟩ := List.forall_mem_cons.mp h
  rw [List.append_assoc, List.cons_append, tokens, List.flatMap_append, List.flatMap_cons,
    spread_of_isBlank hc, List.singleton_append, Text.words_append_cons hc, ← tokens, ← tokens,
    tokens_blanks_append hb]

/-- **A mark is a token of its own.** -/
theorem tokens_append_mark {m : Char} (h : isMark m = true) (s t : List Char) :
    tokens (s ++ m :: t) = tokens s ++ [m] :: tokens t := by
  have hsolid : isBlank m = false := of_isMark (p := fun m => isBlank m = false) (by decide) h
  have hmark : words [m] = [[m]] :=
    Text.words_eq_singleton (List.cons_ne_nil _ _) (by simpa using hsolid)
  have hinner := Text.words_append_cons (by decide : isBlank ' ' = true) [m] (t.flatMap spread)
  rw [tokens, List.flatMap_append, List.flatMap_cons, spread, if_pos h, List.cons_append,
    Text.words_append_cons (by decide)]
  rw [hmark] at hinner
  exact congrArg _ hinner

/-- **Restyled texts have the same tokens.** -/
theorem tokens_eq_of_restyled {s t : List Char} (h : Restyled s t) : tokens s = tokens t := by
  cases h with
  | letters h =>
      have hmap := Text.map_eq_map_of_sameIgnoringCase (f := spread) (by decide +kernel) h
      rw [tokens, tokens, List.flatMap, List.flatMap, hmap]
  | ends hb he => rw [tokens_append_blanks _ he, tokens_blanks_append hb]
  | before hm hb => rw [tokens_append_mark hm, tokens_append_mark hm, tokens_append_blanks _ hb]
  | behind hm hb => rw [tokens_append_mark hm, tokens_append_mark hm, tokens_blanks_append hb]
  | run hb hbne he hene => rw [tokens_append_gap hb hbne, tokens_append_gap he hene]

/-! ## 3. Texts with given tokens -/

/-- A text without marks has its words for tokens. -/
theorem tokens_of_unmarked {s : List Char} (h : ∀ c ∈ s, isMark c = false) :
    tokens s = (words s).map lowerAscii := by
  have hspread : s.map spread = s.map (fun c => [c.toLower]) :=
    List.map_congr_left (fun c hc => by simp [spread, h c hc])
  have hlower : s.flatMap spread = s.map Char.toLower := by
    rw [List.map_eq_flatMap]
    exact congrArg List.flatten hspread
  rw [tokens, hlower, Text.words_map isBlank_toLower]
  rfl

theorem not_mem_tokens_of_unmarked {s : List Char} (h : ∀ c ∈ s, isMark c = false) {m : Char}
    (hm : isMark m = true) : [m] ∉ tokens s := by
  rw [tokens_of_unmarked h]
  intro hmem
  obtain ⟨w, hw, hlower⟩ := List.mem_map.mp hmem
  obtain ⟨c, rfl, rfl⟩ := List.map_eq_singleton_iff.mp hlower
  have hc := h c (Text.mem_of_mem_pieces List.mem_cons_self (List.mem_filter.mp hw).1)
  rw [isMark_toLower, hc] at hm
  cases hm

/-- A text is unmarked, or has a first mark. -/
theorem exists_first_mark (s : List Char) :
    (∀ c ∈ s, isMark c = false) ∨
      ∃ a m b, s = a ++ m :: b ∧ (∀ c ∈ a, isMark c = false) ∧ isMark m = true := by
  rcases Text.exists_first_piece isMark s with ⟨hall, -⟩ | ⟨a, m, b, hs, ha, hm, -⟩
  · exact .inl hall
  · exact .inr ⟨a, m, b, hs, ha, hm⟩

/-- **A mark among the tokens parts the text**, and with it the tokens. -/
theorem exists_of_tokens_eq_append {m : Char} (hm : isMark m = true) {s : List Char}
    {x y : List (List Char)} (h : tokens s = x ++ [m] :: y) :
    ∃ a b, s = a ++ m :: b ∧ tokens a = x ∧ tokens b = y := by
  rcases exists_first_mark s with hnone | ⟨a, k, b, hs, ha, hk⟩
  · exact absurd (by rw [h]; simp) (not_mem_tokens_of_unmarked hnone hm)
  · rw [hs, tokens_append_mark hk] at h
    rcases List.append_eq_append_iff.mp h with ⟨x', hx, hrest⟩ | ⟨a', ha', hrest⟩
    · cases x' with
      | nil =>
          -- the first mark is the one that is sought
          obtain ⟨hmark, hb⟩ := List.cons.inj hrest
          rw [List.singleton_inj.mp hmark] at hs
          exact ⟨a, b, hs, by rw [hx, List.append_nil], hb⟩
      | cons w x' =>
          obtain ⟨rfl, hb⟩ := List.cons.inj hrest
          obtain ⟨c, d, rfl, hc, hd⟩ := exists_of_tokens_eq_append hm hb
          exact ⟨a ++ k :: c, d, by rw [hs]; simp, by rw [tokens_append_mark hk, hc, hx], hd⟩
    · cases a' with
      | nil =>
          obtain ⟨hmark, hb⟩ := List.cons.inj hrest
          rw [← List.singleton_inj.mp hmark] at hs
          exact ⟨a, b, hs, by rw [ha', List.append_nil], hb.symm⟩
      | cons w a' =>
          -- no mark stands in front of the first one
          obtain ⟨rfl, -⟩ := List.cons.inj hrest
          exact absurd (by rw [ha']; simp) (not_mem_tokens_of_unmarked ha hm)
termination_by s.length
decreasing_by
  rw [hs]
  simp only [List.length_append, List.length_cons]
  omega

/-- The marks of a text are those among its tokens. -/
theorem mark_mem_tokens_iff {m : Char} (hm : isMark m = true) {s : List Char} :
    [m] ∈ tokens s ↔ m ∈ s := by
  constructor
  · intro h
    obtain ⟨x, y, hxy⟩ := List.append_of_mem h
    obtain ⟨a, b, rfl, -, -⟩ := exists_of_tokens_eq_append hm hxy
    simp
  · intro h
    obtain ⟨a, b, rfl⟩ := List.append_of_mem h
    rw [tokens_append_mark hm]
    simp

theorem mark_mem_iff_of_tokens {s t : List Char} (h : tokens s = tokens t) {m : Char}
    (hm : isMark m = true) : m ∈ s ↔ m ∈ t := by
  rw [← mark_mem_tokens_iff hm, h, mark_mem_tokens_iff hm]

theorem tokens_eq_nil_iff {s : List Char} : tokens s = [] ↔ IsBlanks s := by
  refine ⟨fun h => ?_, tokens_of_isBlanks⟩
  rcases exists_first_mark s with hnone | ⟨a, m, b, rfl, -, hm⟩
  · rw [tokens_of_unmarked hnone, List.map_eq_nil_iff] at h
    exact Text.words_eq_nil_iff.mp h
  · rw [tokens_append_mark hm] at h
    exact absurd h (by simp)

/-! ## 4. Single tokens -/

/-- Characters that make up one token: at least one of them, and no blanks or
marks. -/
def IsSolid (s : List Char) : Prop := s ≠ [] ∧ ∀ c ∈ s, isBlank c = false ∧ isMark c = false

instance (s : List Char) : Decidable (IsSolid s) :=
  inferInstanceAs (Decidable (s ≠ [] ∧ ∀ c ∈ s, isBlank c = false ∧ isMark c = false))

theorem IsSolid.of_sameIgnoringCase {s t : List Char} (ht : IsSolid t)
    (h : sameIgnoringCase s t = true) : IsSolid s := by
  have h' : sameIgnoringCase t s = true := by rwa [sameIgnoringCase, BEq.comm]
  refine ⟨?_, fun c hc => ⟨?_, ?_⟩⟩
  · rintro rfl
    exact ht.1 (List.map_eq_nil_iff.mp (eq_of_beq h).symm)
  · exact Text.forall_mem_of_sameIgnoringCase (f := isBlank) (by decide +kernel) h'
      (fun d hd => (ht.2 d hd).1) c hc
  · exact Text.forall_mem_of_sameIgnoringCase (f := isMark) (by decide +kernel) h'
      (fun d hd => (ht.2 d hd).2) c hc

/-- A single token is the trimmed text in small letters. -/
theorem lowerAscii_trim_of_tokens {s w : List Char} (h : tokens s = [w]) :
    lowerAscii (trim s) = w := by
  rcases exists_first_mark s with hnone | ⟨a, m, b, rfl, -, hm⟩
  · rw [tokens_of_unmarked hnone] at h
    rcases Text.exists_first_word s with ⟨-, hwords⟩ | ⟨b, v, r, hs, hb, -, hv, -, hwords⟩
    · rw [hwords] at h
      cases h
    · rw [hwords, List.map_cons] at h
      obtain ⟨hlower, hr⟩ := List.cons.inj h
      have hrest : IsBlanks r := Text.words_eq_nil_iff.mp (List.map_eq_nil_iff.mp hr)
      rw [hs, Text.trim_blanks_append hb, Text.trim_append_blanks v hrest,
        Text.trim_eq_self_of_forall hv, hlower]
  · rw [tokens_append_mark hm] at h
    obtain ⟨ha, hmark, hb⟩ : tokens a = [] ∧ [m] = w ∧ tokens b = [] := by
      simpa [List.append_eq_singleton_iff] using h
    have hself : trim [m] = [m] ∧ lowerAscii [m] = [m] :=
      of_isMark (p := fun m => trim [m] = [m] ∧ lowerAscii [m] = [m]) (by decide) hm
    rw [Text.trim_blanks_append (tokens_eq_nil_iff.mp ha), ← List.singleton_append,
      Text.trim_append_blanks [m] (tokens_eq_nil_iff.mp hb), hself.1, hself.2, hmark]

theorem tokens_of_isSolid {s : List Char} (h : IsSolid s) : tokens s = [lowerAscii s] := by
  rw [tokens_of_unmarked (fun c hc => (h.2 c hc).2),
    Text.words_eq_singleton h.1 (fun c hc => (h.2 c hc).1)]
  rfl

/-- **A reader of solid texts that does not tell the case of letters depends on
the tokens only.** -/
theorem apply_trim_eq_of_tokens {α : Type} {r : List Char → Option α}
    (hsolid : ∀ {s v}, r s = some v → IsSolid s)
    (hcase : ∀ {s t v}, r s = some v → sameIgnoringCase s t = true → r t = some v)
    {s t : List Char} (h : tokens s = tokens t) : r (trim s) = r (trim t) := by
  have hforth : ∀ {s t : List Char}, tokens s = tokens t → ∀ v, r (trim s) = some v →
      r (trim t) = some v := by
    intro s t h v hv
    have hone := tokens_of_isSolid (hsolid hv)
    rw [tokens_trim, h] at hone
    exact hcase hv (beq_iff_eq.mpr (lowerAscii_trim_of_tokens hone).symm)
  ext v
  exact ⟨hforth h v, hforth h.symm v⟩

end SqlAtlas.SqlName
