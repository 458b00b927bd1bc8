/-
SqlAtlas.Proofs.Overrides.Entries — what overrides pin, entry by entry.

The text of overrides is a row of entries. An entry is a text of its own: it
has no separator outside all nesting and leaves nothing open (`IsEntry`), so
the splitter finds exactly the entries that were written, whatever stands
between them (`pins_written`). `Pins` says what one entry pins, in terms of
the entry alone. The last entry that pins a dialect counts for it, so entries
that pin nothing can go and entries for different dialects can change places
(`Rearranged`).
-/
import Mathlib.Logic.Relation
import SqlAtlas.Overrides
import SqlAtlas.Proofs.Text.Nesting

namespace SqlAtlas

open Text

/-! ## 1. Spellings of dialects -/

/-- No two dialects share a spelling. -/
theorem Dialect.eq_of_isCalled {d d' : Dialect} {s : List Char} (h : d.isCalled s = true)
    (h' : d'.isCalled s = true) : d = d' := by
  have hapart : ∀ a ∈ d.aliases, ∀ a' ∈ d'.aliases,
      lowerAscii a.toList = lowerAscii a'.toList → d = d' := by
    cases d <;> cases d' <;> decide
  obtain ⟨a, ha, hs⟩ := List.any_eq_true.mp h
  obtain ⟨a', ha', hs'⟩ := List.any_eq_true.mp h'
  exact hapart a ha a' ha' ((eq_of_beq hs).trans (eq_of_beq hs').symm)

theorem Dialect.isCalled_of_ofAlias? {d : Dialect} {s : List Char}
    (h : Dialect.ofAlias? s = some d) : d.isCalled s = true := by
  rw [Dialect.ofAlias?] at h
  have hcalled := List.find?_some h
  exact hcalled

/-- A dialect is found by its spellings. -/
theorem Dialect.ofAlias?_eq_some_iff {d : Dialect} {s : List Char} :
    Dialect.ofAlias? s = some d ↔ d.isCalled s = true := by
  refine ⟨Dialect.isCalled_of_ofAlias?, fun h => ?_⟩
  cases hfound : Dialect.ofAlias? s with
  | none =>
      have hmem : d ∈ Dialect.all := by cases d <;> decide
      exact absurd h (List.find?_eq_none.mp hfound d hmem)
  | some d' => rw [Dialect.eq_of_isCalled (Dialect.isCalled_of_ofAlias? hfound) h]

theorem Dialect.not_isCalled_nil (d : Dialect) : d.isCalled [] = false := by
  cases d <;> decide

/-! ## 2. Entries -/

namespace OverrideEntry

theorem forall_ne_colon {s : List Char} (h : ':' ∉ s) : ∀ c ∈ s, decide (c ≠ ':') = true := by
  intro c hc
  rw [decide_eq_true_eq]
  rintro rfl
  exact h hc

theorem splitColon_eq_some_iff {e x y : List Char} :
    splitColon e = some (x, y) ↔ e = x ++ ':' :: y ∧ ':' ∉ x := by
  constructor
  · intro h
    rw [splitColon] at h
    split at h
    · cases h
    · rename_i c r hr
      cases h
      have hc : c = ':' := by
        have hnot := List.head?_dropWhile_not (fun c => decide (c ≠ ':')) e
        rw [hr] at hnot
        simpa using hnot
      refine ⟨?_, fun hmem => by simpa using List.mem_takeWhile_imp hmem⟩
      rw [hc] at hr
      rw [← hr, List.takeWhile_append_dropWhile]
  · rintro ⟨rfl, hx⟩
    have hall := forall_ne_colon hx
    rw [splitColon, List.dropWhile_append_of_pos hall, List.takeWhile_append_of_pos hall]
    simp

theorem splitColon_eq_none {e : List Char} (h : ':' ∉ e) : splitColon e = none := by
  rw [splitColon, List.dropWhile_eq_nil_iff.mpr (forall_ne_colon h)]

/-- Two parts that are not empty pin a type if the first one is a spelling. -/
theorem pin?_ofParts_iff {entry spelling text : List Char} {d : Dialect} {t : String} :
    (ofParts entry spelling text).pin? = some (d, t)
      ↔ d.isCalled spelling = true ∧ text ≠ [] ∧ t = String.ofList text := by
  rw [ofParts]
  split
  · rename_i hempty
    simp only [Bool.or_eq_true, List.isEmpty_iff] at hempty
    refine iff_of_false (fun h => by cases h) ?_
    rintro ⟨hcalled, htext, _⟩
    rcases hempty with rfl | rfl
    · rw [Dialect.not_isCalled_nil] at hcalled
      cases hcalled
    · exact htext rfl
  · rename_i hempty
    simp only [Bool.or_eq_true, List.isEmpty_iff, not_or] at hempty
    rw [← Dialect.ofAlias?_eq_some_iff]
    cases Dialect.ofAlias? spelling with
    | none => simp [pin?]
    | some d' => simp [pin?, hempty.2, eq_comm]

end OverrideEntry

namespace Overrides

open OverrideEntry

/-- What stands between entries. -/
def separators : List Char := [',', ';']

/-- A text in which nothing stands outside all nesting that would end it, and
that leaves nothing open. -/
structure IsEntry (e : List Char) : Prop where
  uncut : Uncut separators .zero e
  closed : Depth.zero.behind e = .zero

instance (e : List Char) : Decidable (IsEntry e) :=
  decidable_of_iff (Uncut separators .zero e ∧ Depth.zero.behind e = .zero)
    ⟨fun h => ⟨h.1, h.2⟩, fun h => ⟨h.uncut, h.closed⟩⟩

theorem IsEntry.append {s t : List Char} (hs : IsEntry s) (ht : IsEntry t) : IsEntry (s ++ t) := by
  refine ⟨hs.uncut.append ?_, ?_⟩
  · rw [hs.closed]
    exact ht.uncut
  · rw [Depth.behind_append, hs.closed, ht.closed]

theorem IsEntry.of_flat {s : List Char} (h : ∀ c ∈ s, isFlat c = true ∧ c ∉ separators) :
    IsEntry s :=
  ⟨.of_not_mem (fun c hc => (h c hc).2) _, Depth.behind_flat _ (fun c hc => (h c hc).1)⟩

/-- Inside parentheses an entry may hold separators. -/
theorem IsEntry.parenthesised {s : List Char} (h : ∀ c ∈ s, isFlat c = true) :
    IsEntry ('(' :: s ++ [')']) := by
  have hopen : Depth.zero.after '(' ≠ .zero := by decide
  have hinner : (Depth.zero.after '(').behind s = Depth.zero.after '(' := Depth.behind_flat _ h
  constructor
  · rw [List.cons_append, uncut_cons_iff]
    refine ⟨fun hmem => absurd hmem (by decide), (Uncut.of_open hopen h).append ?_⟩
    rw [hinner]
    decide
  · rw [List.cons_append, Depth.behind_cons, Depth.behind_append, hinner]
    rfl

/-- An entry pins a type for a dialect: before its first colon stands, in any
case and with blanks around it, a spelling of the dialect, and behind it the
type, which is not blank. -/
def Pins (e : List Char) (d : Dialect) (t : String) : Prop :=
  ∃ x y, e = x ++ ':' :: y ∧ ':' ∉ x
    ∧ (∃ a ∈ d.aliases, sameIgnoringCase a.toList (trim x) = true)
    ∧ ¬ IsBlanks y ∧ t = String.ofList (trim y)

/-- What the reader takes from a piece between separators. -/
def pinned? (piece : List Char) : Option (Dialect × String) :=
  (OverrideEntry.read (trim piece)).pin?

/-- The blanks around an entry are around its parts. -/
theorem pinned?_append_colon {x : List Char} (hx : ':' ∉ x) (y : List Char) :
    ∃ entry, pinned? (x ++ ':' :: y) = (ofParts entry (trim x) (trim y)).pin? := by
  have htrim : trim (x ++ ':' :: y) = trimStart x ++ ':' :: trimEnd y :=
    trim_append_cons (by decide) x y
  have hstart : ':' ∉ trimStart x := fun hmem => hx ((List.dropWhile_sublist _).mem hmem)
  have hsplit := splitColon_eq_some_iff.mpr ⟨htrim, hstart⟩
  refine ⟨trim (x ++ ':' :: y), ?_⟩
  rw [pinned?, OverrideEntry.read, hsplit]
  simp only [trim_trimStart, trim_trimEnd]

/-- **The reader takes from a piece what it pins.** -/
theorem pinned?_eq_some_iff {e : List Char} {d : Dialect} {t : String} :
    pinned? e = some (d, t) ↔ Pins e d t := by
  by_cases hcolon : ':' ∈ e
  · obtain ⟨x, y, rfl, hx⟩ := List.eq_append_cons_of_mem hcolon
    obtain ⟨entry, hread⟩ := pinned?_append_colon hx y
    rw [hread, pin?_ofParts_iff, ne_eq, trim_eq_nil_iff, Dialect.isCalled, trim_trim,
      List.any_eq_true]
    constructor
    · rintro ⟨ha, hy, rfl⟩
      exact ⟨x, y, rfl, hx, ha, hy, rfl⟩
    · rintro ⟨x', y', hsplit, hx', ha, hy, rfl⟩
      have hsame := (splitColon_eq_some_iff.mpr ⟨rfl, hx⟩).symm.trans
        (splitColon_eq_some_iff.mpr ⟨hsplit, hx'⟩)
      cases hsame
      exact ⟨ha, hy, rfl⟩
  · refine iff_of_false ?_ ?_
    · have htrim : ':' ∉ trim e := by
        obtain ⟨b, r, hs, _, _⟩ := exists_trim e
        intro hmem
        rw [hs] at hcolon
        simp [hmem] at hcolon
      rw [pinned?, OverrideEntry.read, splitColon_eq_none htrim]
      exact fun h => by cases h
    · rintro ⟨x, y, rfl, _⟩
      simp at hcolon

theorem pinned?_eq_none_iff {e : List Char} : pinned? e = none ↔ ∀ d t, ¬ Pins e d t := by
  simp only [Option.eq_none_iff_forall_ne_some, ne_eq, Prod.forall, pinned?_eq_some_iff]

/-! ## 3. What counts for a dialect -/

/-- The pins of a text are those of its pieces. -/
theorem pins_read (text : List Char) :
    (read text).pins = (cut separators .zero (body text)).filterMap pinned? := by
  have hblank : ∀ p : List Char, (if (!p.isEmpty) = true then (OverrideEntry.read p).pin? else none)
      = (OverrideEntry.read p).pin? := by
    intro p
    cases p with
    | nil => rfl
    | cons c r => rfl
  change ((splitOutside separators (body text)).map OverrideEntry.read).filterMap pin? = _
  rw [splitOutside, List.filterMap_map, List.filterMap_filter, List.filterMap_map]
  simp only [Function.comp_def, hblank]
  rfl

/-- Only the pins of a dialect count for it, and of them the last. -/
theorem get?_eq_getLast? (o : Overrides) (d : Dialect) :
    o.get? d = ((o.pins.filter (fun p => p.1 = d)).getLast?).map Prod.snd := by
  rw [get?, ← List.head?_filter, List.filter_reverse, List.head?_reverse]

theorem any_pinned?_iff {e : List Char} {d : Dialect} :
    (pinned? e).any (fun p => p.1 = d) = true ↔ ∃ t, Pins e d t := by
  rw [Option.any_eq_true]
  constructor
  · rintro ⟨⟨d', t⟩, hp, hd⟩
    have hsame : d' = d := of_decide_eq_true hd
    rw [hsame] at hp
    exact ⟨t, pinned?_eq_some_iff.mp hp⟩
  · rintro ⟨t, ht⟩
    exact ⟨(d, t), pinned?_eq_some_iff.mpr ht, decide_eq_true rfl⟩

/-- **The last entry that pins a dialect counts for it.** -/
theorem get?_eq_some_iff {o : Overrides} {es : List (List Char)}
    (ho : o.pins = es.filterMap pinned?) {d : Dialect} {t : String} :
    o.get? d = some t ↔ ∃ before e after, es = before ++ e :: after ∧ Pins e d t
      ∧ ∀ f ∈ after, ∀ u, ¬ Pins f d u := by
  rw [get?, ho, ← List.filterMap_reverse, List.find?_filterMap]
  constructor
  · intro h
    obtain ⟨⟨d', t⟩, hfound, rfl⟩ := Option.map_eq_some_iff.mp h
    obtain ⟨e, he, hpin⟩ := Option.bind_eq_some_iff.mp hfound
    obtain ⟨hany, after, before, hsplit, hafter⟩ := List.find?_eq_some_iff_append.mp he
    refine ⟨before.reverse, e, after.reverse, ?_, ?_, fun f hf u hu => ?_⟩
    · rw [← List.reverse_reverse es, hsplit]
      simp
    · obtain ⟨u, hu⟩ := any_pinned?_iff.mp hany
      rw [pinned?_eq_some_iff.mpr hu] at hpin
      cases hpin
      exact hu
    · have hnot := hafter f (List.mem_reverse.mp hf)
      rw [any_pinned?_iff.mpr ⟨u, hu⟩] at hnot
      cases hnot
  · rintro ⟨before, e, after, rfl, hpin, hafter⟩
    have he : (before ++ e :: after).reverse.find?
        (fun e => (pinned? e).any (fun p => p.1 = d)) = some e := by
      refine List.find?_eq_some_iff_append.mpr ⟨any_pinned?_iff.mpr ⟨t, hpin⟩, after.reverse,
        before.reverse, by simp, fun f hf => ?_⟩
      rw [Bool.not_eq_true', ← Bool.not_eq_true, any_pinned?_iff]
      rintro ⟨u, hu⟩
      exact hafter f (List.mem_reverse.mp hf) u hu
    rw [he, Option.bind_some, pinned?_eq_some_iff.mpr hpin]
    rfl

theorem get?_eq_none_iff {o : Overrides} {es : List (List Char)}
    (ho : o.pins = es.filterMap pinned?) {d : Dialect} :
    o.get? d = none ↔ ∀ e ∈ es, ∀ t, ¬ Pins e d t := by
  rw [get?, ho, Option.map_eq_none_iff, List.find?_eq_none]
  simp only [List.mem_reverse, List.mem_filterMap, decide_eq_true_eq]
  constructor
  · exact fun h e he t ht => h (d, t) ⟨e, he, pinned?_eq_some_iff.mpr ht⟩ rfl
  · rintro h ⟨d', t⟩ ⟨e, he, hp⟩ rfl
    exact h e he t (pinned?_eq_some_iff.mp hp)

theorem toList_congr {o o' : Overrides} (h : ∀ d, o.get? d = o'.get? d) : o.toList = o'.toList := by
  simp only [toList, h]

/-! ## 4. Entries in a row -/

/-- A row of entries with one separator between neighbours. -/
inductive Written : List (List Char) → List Char → Prop
  | none : Written [] []
  | one (e : List Char) : Written [e] e
  | more (e : List Char) {f s : List Char} {es : List (List Char)} {c : Char}
      (hc : c ∈ separators) (hs : Written (f :: es) s) : Written (e :: f :: es) (e ++ c :: s)

theorem isFlat_of_mem_separators : ∀ c ∈ separators, isFlat c = true := by decide

/-- **The pieces of a row are its entries.** -/
theorem filterMap_cut_written {es : List (List Char)} {s : List Char} (h : ∀ e ∈ es, IsEntry e)
    (hs : Written es s) : (cut separators .zero s).filterMap pinned? = es.filterMap pinned? := by
  induction hs with
  | none => rfl
  | one e => rw [cut_of_uncut isFlat_of_mem_separators (h e (by simp)).uncut]
  | more e hc _ ih =>
      have he := h e (by simp)
      rw [cut_append_delimiter isFlat_of_mem_separators he.uncut he.closed hc,
        List.filterMap_cons, List.filterMap_cons (l := _ :: _), ih (fun f hf => h f (by simp [hf]))]

/-- A text in braces. -/
def braced (s : List Char) : List Char := '{' :: s ++ ['}']

theorem body_braced (s : List Char) : body (braced s) = s := by
  have htrim : trim (braced s) = braced s := by
    refine trim_eq_self (fun c hc => ?_) (fun c hc => ?_)
    · cases hc
      decide
    · rw [braced, List.getLast?_concat] at hc
      cases hc
      decide
  rw [body, htrim, braced, List.cons_append, dropOpen, dropClose]
  simp

theorem dropOpen_eq_self {s : List Char} (h : s.head? ≠ some '{') : dropOpen s = s := by
  rw [dropOpen.eq_def]
  split
  · exact absurd rfl h
  · rfl

theorem dropClose_eq_self {s : List Char} (h : s.getLast? ≠ some '}') : dropClose s = s := by
  rw [← List.head?_reverse] at h
  rw [dropClose]
  split
  · rename_i hs
    rw [hs] at h
    exact absurd rfl h
  · rfl

theorem body_eq_trim {s : List Char} (h : (trim s).head? ≠ some '{')
    (h' : (trim s).getLast? ≠ some '}') : body s = trim s := by
  rw [body, dropOpen_eq_self h, dropClose_eq_self h']

theorem pins_braced {es : List (List Char)} {s : List Char} (h : ∀ e ∈ es, IsEntry e)
    (hs : Written es s) : (read (braced s)).pins = es.filterMap pinned? := by
  rw [pins_read, body_braced, filterMap_cut_written h hs]

/-- **Braces may be left out** where the text has none at its ends. -/
theorem read_eq_read_braced {s : List Char} (h : (trim s).head? ≠ some '{')
    (h' : (trim s).getLast? ≠ some '}') : read s = read (braced s) := by
  have hmap : ∀ ps : List (List Char), ps.filterMap pinned?
      = (ps.map trim).filterMap (fun e => (OverrideEntry.read e).pin?) := by
    intro ps
    rw [List.filterMap_map]
    rfl
  have hpins : (read s).pins = (read (braced s)).pins := by
    rw [pins_read, pins_read, body_braced, body_eq_trim h h', hmap, hmap,
      map_trim_cut_trim isFlat_of_mem_separators (by decide)]
  rw [read, read, Overrides.mk.injEq]
  exact hpins

/-! ## 5. Entries put in and moved -/

/-- An entry that pins nothing is put in, or two neighbours that pin no dialect
both change places. -/
inductive Rearranged : List (List Char) → List (List Char) → Prop
  | insert {e : List Char} (es fs : List (List Char)) (h : ∀ d t, ¬ Pins e d t) :
      Rearranged (es ++ fs) (es ++ e :: fs)
  | swap {e f : List Char} (es fs : List (List Char)) (h : ∀ d t u, Pins e d t → ¬ Pins f d u) :
      Rearranged (es ++ e :: f :: fs) (es ++ f :: e :: fs)

/-- The pins of one dialect among those of a row. -/
def pinsFor (d : Dialect) (es : List (List Char)) : List (Dialect × String) :=
  (es.filterMap pinned?).filter (fun p => p.1 = d)

theorem pinsFor_append (d : Dialect) (es fs : List (List Char)) :
    pinsFor d (es ++ fs) = pinsFor d es ++ pinsFor d fs := by
  rw [pinsFor, List.filterMap_append, List.filter_append]
  rfl

theorem pinsFor_singleton {d : Dialect} {e : List Char} (h : ∀ t, ¬ Pins e d t) :
    pinsFor d [e] = [] := by
  refine List.filter_eq_nil_iff.mpr (fun p hp hd => ?_)
  obtain ⟨e', he', hpin⟩ := List.mem_filterMap.mp hp
  rw [List.mem_singleton.mp he', ← Prod.mk.eta (p := p), of_decide_eq_true hd] at hpin
  exact h p.2 (pinned?_eq_some_iff.mp hpin)

/-- The pins of every dialect keep their order. -/
theorem Rearranged.pinsFor_eq {es es' : List (List Char)} (h : Rearranged es es') (d : Dialect) :
    pinsFor d es = pinsFor d es' := by
  have hcons : ∀ e fs, pinsFor d (e :: fs) = pinsFor d [e] ++ pinsFor d fs :=
    fun e fs => pinsFor_append d [e] fs
  cases h with
  | insert es fs h =>
      rw [pinsFor_append, pinsFor_append, hcons, pinsFor_singleton (h d), List.nil_append]
  | @swap e f es fs h =>
      have hswap : pinsFor d [e] ++ pinsFor d [f] = pinsFor d [f] ++ pinsFor d [e] := by
        by_cases he : ∃ t, Pins e d t
        · obtain ⟨t, ht⟩ := he
          rw [pinsFor_singleton (fun u => h d t u ht), List.append_nil, List.nil_append]
        · rw [pinsFor_singleton (not_exists.mp he), List.append_nil, List.nil_append]
      rw [pinsFor_append, pinsFor_append, hcons e (f :: fs), hcons f fs, hcons f (e :: fs),
        hcons e fs, ← List.append_assoc (pinsFor d [e]), hswap, List.append_assoc]

theorem pinsFor_eq_of_rearranged {es es' : List (List Char)}
    (h : Relation.EqvGen Rearranged es es') (d : Dialect) : pinsFor d es = pinsFor d es' := by
  induction h with
  | rel _ _ h => exact h.pinsFor_eq d
  | refl _ => rfl
  | symm _ _ _ ih => exact ih.symm
  | trans _ _ _ _ _ ih ih' => exact ih.trans ih'

theorem get?_eq_of_pinsFor {o : Overrides} {es : List (List Char)}
    (ho : o.pins = es.filterMap pinned?) (d : Dialect) :
    o.get? d = (pinsFor d es).getLast?.map Prod.snd := by
  rw [get?_eq_getLast?, ho, pinsFor]

/-! ## 6. The language of overrides -/

/-- **Overrides pin for each dialect what the last entry for it says**, and
nothing where there is none, whatever separators stand between the entries. So
entries that pin nothing may be put in and those for different dialects may
change places, and braces may be left out where the text has none at its ends. -/
theorem read_written {es : List (List Char)} {s : List Char} (h : ∀ e ∈ es, IsEntry e)
    (hs : Written es s) :
    (∀ d t, (read (braced s)).get? d = some t ↔ ∃ before e after, es = before ++ e :: after
        ∧ Pins e d t ∧ ∀ f ∈ after, ∀ u, ¬ Pins f d u)
      ∧ (∀ d, (read (braced s)).get? d = none ↔ ∀ e ∈ es, ∀ t, ¬ Pins e d t)
      ∧ (∀ es' s', Relation.EqvGen Rearranged es es' → (∀ e ∈ es', IsEntry e) → Written es' s' →
          (read (braced s')).toList = (read (braced s)).toList)
      ∧ ((trim s).head? ≠ some '{' → (trim s).getLast? ≠ some '}' → read s = read (braced s)) := by
  have hpins := pins_braced h hs
  refine ⟨fun d t => get?_eq_some_iff hpins, fun d => get?_eq_none_iff hpins, ?_,
    read_eq_read_braced⟩
  intro es' s' hes h' hs'
  refine toList_congr (fun d => ?_)
  rw [get?_eq_of_pinsFor hpins, get?_eq_of_pinsFor (pins_braced h' hs'),
    pinsFor_eq_of_rearranged hes]

/-- Two entries for MySQL, the first with a semicolon in a group, one for
PostgreSQL, and one for a dialect that is not known. -/
def mySqlTwice : List (List Char) :=
  [" MySQL : enum(a;b)".toList, "oracle:x".toList, "pg:int[]".toList, "MARIA:a:b)".toList]

/-- The later entry for MySQL counts, with its colon and its stray closer. It
still does without the unknown dialect and in front of the entry for
PostgreSQL, and the braces may be left out. -/
theorem read_written_mySqlTwice :
    (read (braced " MySQL : enum(a;b);oracle:x,pg:int[],MARIA:a:b)".toList)).get? .mySql
        = some "a:b)"
      ∧ (read (braced " MySQL : enum(a;b);oracle:x,pg:int[],MARIA:a:b)".toList)).get? .sqlite
        = none
      ∧ (read (braced " MySQL : enum(a;b);MARIA:a:b);pg:int[]".toList)).toList
        = (read (braced " MySQL : enum(a;b);oracle:x,pg:int[],MARIA:a:b)".toList)).toList
      ∧ read " MySQL : enum(a;b);oracle:x,pg:int[],MARIA:a:b)".toList
        = read (braced " MySQL : enum(a;b);oracle:x,pg:int[],MARIA:a:b)".toList) := by
  have hentries : ∀ e ∈ mySqlTwice, IsEntry e := by decide
  have hwritten : Written mySqlTwice " MySQL : enum(a;b);oracle:x,pg:int[],MARIA:a:b)".toList :=
    .more (c := ';') _ (by decide) (.more (c := ',') _ (by decide) (.more (c := ',') _ (by decide)
      (.one _)))
  obtain ⟨hget, hnone, hmoved, hbare⟩ := read_written hentries hwritten
  refine ⟨?_, ?_, ?_, hbare (by decide) (by decide)⟩
  · have hpins : Pins "MARIA:a:b)".toList .mySql "a:b)" := pinned?_eq_some_iff.mp (by decide)
    exact (hget .mySql "a:b)").mpr ⟨mySqlTwice.take 3, _, [], rfl, hpins, by simp⟩
  · have hsqlite : ∀ e ∈ mySqlTwice, (pinned? e).any (fun p => p.1 = .sqlite) = false := by decide
    refine (hnone .sqlite).mpr (fun e he t ht => ?_)
    have hnot := hsqlite e he
    rw [any_pinned?_iff.mpr ⟨t, ht⟩] at hnot
    cases hnot
  · have hunknown : ∀ d t, ¬ Pins "oracle:x".toList d t := pinned?_eq_none_iff.mp (by decide)
    have hapart : ∀ d t u, Pins "pg:int[]".toList d t → ¬ Pins "MARIA:a:b)".toList d u := by
      intro d t u h h'
      rw [← pinned?_eq_some_iff] at h h'
      have hpg : pinned? "pg:int[]".toList = some (.postgreSql, "int[]") := by decide
      have hmaria : pinned? "MARIA:a:b)".toList = some (.mySql, "a:b)") := by decide
      rw [hpg] at h
      rw [hmaria] at h'
      cases h
      cases h'
    have hwithout : Rearranged [" MySQL : enum(a;b)".toList, "pg:int[]".toList,
        "MARIA:a:b)".toList] mySqlTwice := .insert [_] _ hunknown
    have hswapped : Rearranged [" MySQL : enum(a;b)".toList, "pg:int[]".toList,
        "MARIA:a:b)".toList] [" MySQL : enum(a;b)".toList, "MARIA:a:b)".toList,
        "pg:int[]".toList] := .swap [_] [] hapart
    exact hmoved _ _ (.trans _ _ _ (.symm _ _ (.rel _ _ hwithout)) (.rel _ _ hswapped)) (by decide)
      (.more (c := ';') _ (by decide) (.more (c := ';') _ (by decide) (.one _)))

end Overrides

end SqlAtlas
