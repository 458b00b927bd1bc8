/-
SqlAtlas.Proofs.NativeType.Grammar — the texts that name a type.

    type  = blanks path blanks [ '<' type (blanks ',' type)* blanks '>' ]
            ( blanks '[' (blanks ',')* blanks ']' )*

`TypeText` is this grammar with the types that its texts name. A path is never
cut short: nothing but blanks and marks ever stands beside one.

The reader goes over a text token by token and knows nothing of the grammar.
Two things tie them together. Over the text of a type it goes from awaiting a
type to having read this type, whatever is open around it (`run_typeText`). And
at any moment what it has read so far is made of texts of the grammar:
`ReadText` says of which ones, `ReadText.step` that one more token keeps it so,
and `ReadText.run` that a whole run does.

Behind a type the reader may be in one of two phases. A path is not yet a
type, because an opening angle bracket would make it the name of a generic
type. `Settled` covers both, and every other token takes them on in the same
way (`step_settled`).
-/
import Mathlib.Logic.Relation
import SqlAtlas.Proofs.NativeType.Path

namespace SqlAtlas.NativeType

open Text (IsBlanks isBlanks_nil)

/-! ## 1. The grammar -/

/-- A row of `n` commas, with blanks in front of each. -/
inductive CommaRow : Nat → List Char → Prop
  | nil : CommaRow 0 []
  | comma {n : Nat} {g b : List Char} (hg : CommaRow n g) (hb : IsBlanks b) :
      CommaRow (n + 1) (g ++ b ++ [','])

mutual

/-- The texts that name a type. The brackets of an array hold one comma less
than it has dimensions. -/
inductive TypeText : List Char → NativeType → Prop
  | path {a p b : List Char} (ha : IsBlanks a) (hp : IsPath p) (hb : IsBlanks b) :
      TypeText (a ++ p ++ b) (ofPath (String.ofList p))
  | applied {a p b s c : List Char} {ts : List NativeType} {t : NativeType} (ha : IsBlanks a)
      (hp : IsPath p) (hb : IsBlanks b) (hs : ArgumentsText s ts) (hc : IsBlanks c)
      (ht : Applied p ts t) : TypeText (a ++ p ++ b ++ '<' :: s ++ c ++ ['>']) t
  | array {s b g c : List Char} {t : NativeType} {n : Nat} (hs : TypeText s t) (hb : IsBlanks b)
      (hg : CommaRow n g) (hc : IsBlanks c) (hn : n < maxArrayRank) :
      TypeText (s ++ b ++ '[' :: g ++ c ++ [']']) (.array t (n + 1))

/-- The texts that name one type after the other, with commas between them. -/
inductive ArgumentsText : List Char → List NativeType → Prop
  | one {s : List Char} {t : NativeType} (hs : TypeText s t) : ArgumentsText s [t]
  | more {s b r : List Char} {ts : List NativeType} {t : NativeType} (hs : ArgumentsText s ts)
      (hb : IsBlanks b) (hr : TypeText r t) : ArgumentsText (s ++ b ++ ',' :: r) (ts ++ [t])

end

/-- Blanks in front of a type belong to its text. -/
theorem TypeText.blanks_append : ∀ {s : List Char} {t : NativeType}, TypeText s t →
    ∀ {e : List Char}, IsBlanks e → TypeText (e ++ s) t
  | _, _, .path (a := a) (p := p) (b := b) ha hp hb, e, he => by
      have htext : e ++ (a ++ p ++ b) = e ++ a ++ p ++ b := by simp
      rw [htext]
      exact .path (he.append ha) hp hb
  | _, _, .applied (a := a) (p := p) (b := b) (s := s) (c := c) ha hp hb hs hc ht, e, he => by
      have htext : e ++ (a ++ p ++ b ++ '<' :: s ++ c ++ ['>'])
          = e ++ a ++ p ++ b ++ '<' :: s ++ c ++ ['>'] := by simp
      rw [htext]
      exact .applied (he.append ha) hp hb hs hc ht
  | _, _, .array (s := s) (b := b) (g := g) (c := c) hs hb hg hc hn, e, he => by
      have htext : e ++ (s ++ b ++ '[' :: g ++ c ++ [']'])
          = e ++ s ++ b ++ '[' :: g ++ c ++ [']'] := by simp
      rw [htext]
      exact .array (hs.blanks_append he) hb hg hc hn

/-! ## 2. Runs of the reader -/

/-- The state behind a row of tokens, if none of them ends the reading. -/
def run (s : Reading) (ts : List Token) : Except Stop Reading := ts.foldlM step s

theorem run_append {s s' : Reading} {ts : List Token} (h : run s ts = .ok s')
    (us : List Token) : run s (ts ++ us) = run s' us := by
  rw [run] at h
  rw [run, List.foldlM_append, h]
  rfl

theorem run_cons {s s' : Reading} {token : Token} (h : step s token = .ok s')
    (ts : List Token) : run s (token :: ts) = run s' ts := by
  rw [run, List.foldlM_cons, h]
  rfl

theorem run_cons_eq_ok_iff {s s' : Reading} {token : Token} {ts : List Token} :
    run s (token :: ts) = .ok s' ↔ ∃ u, step s token = .ok u ∧ run u ts = .ok s' := by
  cases hstep : step s token with
  | ok u => simp [run_cons hstep]
  | error stop =>
      rw [run, List.foldlM_cons, hstep]
      constructor
      · intro h
        cases h
      · rintro ⟨u, hu, -⟩
        cases hu

theorem read_eq_ok_iff {text : List Char} {t : NativeType} {ls : List Lexeme} {s : Reading} :
    read text s ls = .ok t
      ↔ ∃ s', run s (ls.map Lexeme.token) = .ok s' ∧ finish s' = .ok t := by
  induction ls generalizing s with
  | nil =>
      rw [read]
      have hrun : ∀ s', run s [] = .ok s' ↔ s = s' := fun s' => by simp [run, pure, Except.pure]
      cases hfinish : finish s with
      | ok u => simp [hrun, hfinish]
      | error problem => simp [hrun, hfinish]
  | cons l ls ih =>
      rw [read, List.map_cons]
      cases hstep : step s l.token with
      | ok u => rw [run_cons hstep, ih]
      | error stop => simp [run_cons_eq_ok_iff, hstep]

/-- **Of a text only its tokens decide what is read.** -/
theorem ofName_eq_ok_iff {text : List Char} {t : NativeType} :
    ofName text = .ok t ↔ ∃ s', run .start (tokens text) = .ok s' ∧ finish s' = .ok t := by
  rw [ofName, read_eq_ok_iff, tokens]

/-- The phases behind a whole type. -/
inductive Settled : Phase → NativeType → Prop
  | named (path : List Char) : Settled (.named path) (ofPath (String.ofList path))
  | typed (t : NativeType) : Settled (.typed t) t

/-- Behind a whole type, only an opening angle bracket looks back at how the
type was written. -/
theorem step_settled {phase : Phase} {t : NativeType} (h : Settled phase t)
    (opened : List Opened) {token : Token} (ht : token ≠ .mark '<') :
    step ⟨opened, phase⟩ token = stepTyped opened t token := by
  cases h with
  | named path => exact if_neg ht
  | typed t => rfl

theorem finish_settled {phase : Phase} {t : NativeType} (h : Settled phase t) :
    finish ⟨[], phase⟩ = .ok t := by
  cases h <;> rfl

theorem step_path {p : List Char} (hp : IsPath p) (opened : List Opened) :
    step ⟨opened, .awaiting⟩ (.path p) = .ok ⟨opened, .named p⟩ := if_pos hp.sound

theorem step_open (p : List Char) (opened : List Opened) :
    step ⟨opened, .named p⟩ (.mark '<') = .ok ⟨⟨p, []⟩ :: opened, .awaiting⟩ := by
  simp [step]

section

variable {phase : Phase} {t : NativeType} (h : Settled phase t)

include h

theorem step_comma (p : List Char) (done : List NativeType) (opened : List Opened) :
    step ⟨⟨p, done⟩ :: opened, phase⟩ (.mark ',')
      = .ok ⟨⟨p, done ++ [t]⟩ :: opened, .awaiting⟩ := by
  rw [step_settled h _ (by decide)]
  rfl

theorem step_close {p : List Char} {done : List NativeType} {u : NativeType}
    (hu : ofApplied p (done ++ [t]) = .ok u) (opened : List Opened) :
    step ⟨⟨p, done⟩ :: opened, phase⟩ (.mark '>') = .ok ⟨opened, .typed u⟩ := by
  rw [step_settled h _ (by decide)]
  simp [stepTyped, hu]

theorem step_bracket (opened : List Opened) :
    step ⟨opened, phase⟩ (.mark '[') = .ok ⟨opened, .ranked t 1⟩ := by
  rw [step_settled h _ (by decide)]
  exact if_pos rfl

end

theorem closeRank_eq_ok_iff {t u : NativeType} {rank : Nat} :
    closeRank t rank = .ok u ↔ (1 ≤ rank ∧ rank ≤ maxArrayRank) ∧ u = .array t rank := by
  have hgreatest : maxArrayRank ≤ greatestRank := by decide
  rw [closeRank]
  split
  · rw [mapError_eq_ok_iff, arrayOfRank]
    split
    · rename_i hrank
      simp only [Except.ok.injEq, hrank, and_self, true_and, eq_comm]
    · rename_i hrank
      simp only [reduceCtorEq, hrank, false_and]
  · rename_i hrank
    simp only [reduceCtorEq, false_iff, not_and]
    intro hbounds
    exact absurd (Nat.le_trans hbounds.2 hgreatest) hrank

/-! ## 3. From the grammar to the reader -/

theorem tokens_of_isPath {p : List Char} (hp : IsPath p) : tokens p = [.path p] := by
  have hend : StartsDetached [] := fun c hc => by cases hc
  have hpath := tokens_path hp.nonempty hp.chars hend
  rwa [List.append_nil] at hpath

/-- Blanks around a path are in no token. -/
theorem tokens_blanks_path {a p b : List Char} (ha : IsBlanks a) (hp : IsPath p)
    (hb : IsBlanks b) : tokens (a ++ p ++ b) = [.path p] := by
  rw [tokens_append_blanks _ hb, tokens_blanks_append ha, tokens_of_isPath hp]

/-- Every comma between the brackets of an array counts one dimension. -/
theorem run_commaRow {n : Nat} {g : List Char} (hg : CommaRow n g) (opened : List Opened)
    (t : NativeType) (rank : Nat) :
    run ⟨opened, .ranked t rank⟩ (tokens g) = .ok ⟨opened, .ranked t (rank + n)⟩ := by
  induction hg with
  | nil => rfl
  | @comma n g b _ hb ih =>
      have hstep : step ⟨opened, .ranked t (rank + n)⟩ (.mark ',')
          = .ok ⟨opened, .ranked t (rank + n + 1)⟩ := by simp [step]
      rw [tokens_append_mark _ (by decide), tokens_append_blanks _ hb, run_append ih,
        run_cons hstep]
      rfl

mutual

/-- **The reader takes the text of a type to that type**, whatever is open
around it. -/
theorem run_typeText : ∀ {s : List Char} {t : NativeType}, TypeText s t →
    ∀ opened, ∃ phase, Settled phase t
      ∧ run ⟨opened, .awaiting⟩ (tokens s) = .ok ⟨opened, phase⟩
  | _, _, .path (p := p) ha hp hb, opened => by
      refine ⟨.named p, .named p, ?_⟩
      rw [tokens_blanks_path ha hp hb, run_cons (step_path hp opened)]
      rfl
  | _, _, .applied (a := a) (p := p) (b := b) (s := s) (c := c) (t := t) ha hp hb hs hc ht,
      opened => by
      obtain ⟨done, u, phase, rfl, hsettled, hrun⟩ := run_argumentsText hs p opened
      have hclose := step_close hsettled ((ofApplied_eq_ok_iff hp).mpr ht) opened
      have htext : a ++ p ++ b ++ '<' :: s ++ c ++ ['>']
          = (a ++ p ++ b) ++ '<' :: (s ++ c ++ ['>']) := by simp
      refine ⟨.typed t, .typed t, ?_⟩
      rw [htext, tokens_append_mark _ (by decide), tokens_blanks_path ha hp hb,
        List.singleton_append, run_cons (step_path hp opened), run_cons (step_open p opened),
        tokens_append_mark _ (by decide), tokens_append_blanks _ hc, run_append hrun,
        run_cons hclose]
      rfl
  | _, _, .array (s := s) (b := b) (g := g) (c := c) (t := t) (n := n) hs hb hg hc hn, opened => by
      obtain ⟨phase, hsettled, hrun⟩ := run_typeText hs opened
      have hclose : closeRank t (1 + n) = .ok (.array t (n + 1)) := by
        rw [Nat.add_comm 1 n, closeRank_eq_ok_iff]
        exact ⟨⟨Nat.le_add_left 1 n, hn⟩, rfl⟩
      have hstep : step ⟨opened, .ranked t (1 + n)⟩ (.mark ']')
          = .ok ⟨opened, .typed (.array t (n + 1))⟩ := by
        simp [step, hclose]
      have htext : s ++ b ++ '[' :: g ++ c ++ [']'] = (s ++ b) ++ '[' :: (g ++ c ++ [']']) := by
        simp
      refine ⟨.typed _, .typed _, ?_⟩
      rw [htext, tokens_append_mark _ (by decide), tokens_append_blanks _ hb, run_append hrun,
        run_cons (step_bracket hsettled opened), tokens_append_mark _ (by decide),
        tokens_append_blanks _ hc, run_append (run_commaRow hg opened t 1), run_cons hstep]
      rfl

/-- Over arguments the reader comes to the last one, with the others kept. -/
theorem run_argumentsText : ∀ {s : List Char} {ts : List NativeType}, ArgumentsText s ts →
    ∀ (p : List Char) (opened : List Opened), ∃ done t phase, ts = done ++ [t] ∧ Settled phase t
      ∧ run ⟨⟨p, []⟩ :: opened, .awaiting⟩ (tokens s) = .ok ⟨⟨p, done⟩ :: opened, phase⟩
  | _, _, .one hs, p, opened => by
      obtain ⟨phase, hsettled, hrun⟩ := run_typeText hs (⟨p, []⟩ :: opened)
      exact ⟨[], _, phase, rfl, hsettled, hrun⟩
  | _, _, .more (t := t) hs hb hr, p, opened => by
      obtain ⟨done, u, phase, rfl, hsettled, hrun⟩ := run_argumentsText hs p opened
      obtain ⟨last, hlast, hrest⟩ := run_typeText hr (⟨p, done ++ [u]⟩ :: opened)
      refine ⟨done ++ [u], t, last, rfl, hlast, ?_⟩
      rw [tokens_append_mark _ (by decide), tokens_append_blanks _ hb, run_append hrun,
        run_cons (step_comma hsettled p done opened), hrest]

end

/-- A text that names a type is read as that type, blanks behind it or not. -/
theorem ofName_of_typeText {s b : List Char} {t : NativeType} (hs : TypeText s t)
    (hb : IsBlanks b) : ofName (s ++ b) = .ok t := by
  obtain ⟨phase, hsettled, hrun⟩ := run_typeText hs []
  rw [ofName_eq_ok_iff, tokens_append_blanks _ hb]
  exact ⟨_, hrun, finish_settled hsettled⟩

/-! ## 4. From the reader to the grammar -/

/-- The text in front of the current type: what has been read of the generic
types that are open, the outermost first. -/
inductive OpenedText : List Char → List Opened → Prop
  | nil : OpenedText [] []
  | first {x a p b : List Char} {opened : List Opened} (hx : OpenedText x opened)
      (ha : IsBlanks a) (hp : IsPath p) (hb : IsBlanks b) :
      OpenedText (x ++ (a ++ p ++ b ++ ['<'])) (⟨p, []⟩ :: opened)
  | further {x a p b s c : List Char} {opened : List Opened} {ts : List NativeType}
      (hx : OpenedText x opened) (ha : IsBlanks a) (hp : IsPath p) (hb : IsBlanks b)
      (hs : ArgumentsText s ts) (hc : IsBlanks c) :
      OpenedText (x ++ (a ++ p ++ b ++ '<' :: s ++ c ++ [','])) (⟨p, ts⟩ :: opened)

/-- The text of the current type, as far as it has been read. -/
inductive PhaseText : List Char → Phase → Prop
  | awaiting : PhaseText [] .awaiting
  | named {a p : List Char} (ha : IsBlanks a) (hp : IsPath p) : PhaseText (a ++ p) (.named p)
  | typed {s : List Char} {t : NativeType} (hs : TypeText s t) : PhaseText s (.typed t)
  | ranked {s b g : List Char} {t : NativeType} {n : Nat} (hs : TypeText s t) (hb : IsBlanks b)
      (hg : CommaRow n g) : PhaseText (s ++ b ++ '[' :: g) (.ranked t (n + 1))

/-- The text that the reader has read when it is in a state. -/
def ReadText (x : List Char) (s : Reading) : Prop :=
  ∃ front current, x = front ++ current ∧ OpenedText front s.opened ∧ PhaseText current s.phase

/-- A type behind the text of the innermost open type is one more argument. -/
theorem OpenedText.argument {x s : List Char} {o : Opened} {rest : List Opened}
    {t : NativeType} (hx : OpenedText x (o :: rest)) (hs : TypeText s t) :
    ∃ y a b r, x ++ s = y ++ (a ++ o.path ++ b ++ '<' :: r) ∧ OpenedText y rest ∧ IsBlanks a
      ∧ IsPath o.path ∧ IsBlanks b ∧ ArgumentsText r (o.arguments ++ [t]) := by
  cases hx with
  | @first y a p b _ hy ha hp hb => exact ⟨y, a, b, s, by simp, hy, ha, hp, hb, .one hs⟩
  | @further y a p b r c _ ts hy ha hp hb hr hc =>
      exact ⟨y, a, b, r ++ c ++ ',' :: s, by simp, hy, ha, hp, hb, .more hr hc hs⟩

/-- One token behind a whole type. -/
theorem ReadText.stepTyped {front s b : List Char} {opened : List Opened} {t : NativeType}
    {token : Token} {s' : Reading} (hfront : OpenedText front opened) (hs : TypeText s t)
    (hb : IsBlanks b) (h : stepTyped opened t token = .ok s') :
    ReadText (front ++ s ++ b ++ token.text) s' := by
  rw [NativeType.stepTyped.eq_def] at h
  split at h
  · rename_i htoken
    cases h
    rw [htoken]
    exact ⟨front, s ++ b ++ '[' :: [], by simp [Token.text], hfront, .ranked hs hb .nil⟩
  · split at h
    · cases h
    · rename_i o rest
      obtain ⟨y, a, e, r, htext, hy, ha, hp, he, hr⟩ := hfront.argument hs
      split at h
      · rename_i htoken
        cases h
        rw [htoken, htext]
        exact ⟨y ++ (a ++ o.path ++ e ++ '<' :: r ++ b ++ [',']), [], by simp [Token.text],
          .further hy ha hp he hr hb, .awaiting⟩
      · split at h
        · rename_i htoken
          split at h
          · rename_i u hu
            cases h
            rw [htoken, htext]
            exact ⟨y, a ++ o.path ++ e ++ '<' :: r ++ b ++ ['>'], by simp [Token.text], hy,
              .typed (.applied ha hp he hr hb ((ofApplied_eq_ok_iff hp).mp hu))⟩
          · cases h
        · cases h

/-- **One more token, behind blanks, is read as a part of the grammar.** -/
theorem ReadText.step {x b r : List Char} {s s' : Reading} {token : Token} (hx : ReadText x s)
    (hb : IsBlanks b) (hfits : token.FitsBefore r) (h : step s token = .ok s') :
    ReadText (x ++ b ++ token.text) s' := by
  obtain ⟨front, current, rfl, hfront, hcurrent⟩ := hx
  obtain ⟨opened, phase⟩ := s
  cases hcurrent with
  | awaiting =>
      cases token with
      | mark c => cases h
      | path p =>
          simp only [NativeType.step] at h
          split at h
          · rename_i hsound
            cases h
            obtain ⟨hhead, hlast⟩ := isSoundPath_iff.mp hsound
            have hp : IsPath p := ⟨hfits.1, hfits.2.1, hhead, hlast⟩
            exact ⟨front, b ++ p, by simp [Token.text], hfront, .named hb hp⟩
          · cases h
  | @named a p ha hp =>
      by_cases htoken : token = .mark '<'
      · rw [htoken, step_open] at h
        cases h
        rw [htoken]
        exact ⟨front ++ (a ++ p ++ b ++ ['<']), [], by simp [Token.text],
          .first hfront ha hp hb, .awaiting⟩
      · rw [step_settled (.named p) opened htoken] at h
        have htype := TypeText.path ha hp isBlanks_nil
        rw [List.append_nil] at htype
        exact ReadText.stepTyped hfront htype hb h
  | typed hs => exact ReadText.stepTyped hfront hs hb h
  | @ranked s e g t n hs he hg =>
      simp only [NativeType.step] at h
      split at h
      · rename_i htoken
        cases h
        rw [htoken]
        exact ⟨front, s ++ e ++ '[' :: (g ++ b ++ [',']), by simp [Token.text], hfront,
          .ranked hs he (.comma hg hb)⟩
      · split at h
        · rename_i htoken
          split at h
          · rename_i u hu
            cases h
            obtain ⟨hrank, rfl⟩ := closeRank_eq_ok_iff.mp hu
            rw [htoken]
            exact ⟨front, s ++ e ++ '[' :: g ++ b ++ [']'], by simp [Token.text], hfront,
              .typed (.array hs he hg hb hrank.2)⟩
          · cases h
        · cases h

/-- **A whole run reads parts of the grammar**, up to the blanks at its end. -/
theorem ReadText.run {x s s'} (hx : ReadText x s) (y : List Char)
    (h : run s (tokens y) = .ok s') :
    ∃ z b, x ++ y = z ++ b ∧ IsBlanks b ∧ ReadText z s' := by
  rcases exists_first_token y with hb | ⟨b, token, r, hy, hb, hfits⟩
  · rw [tokens_of_isBlanks hb] at h
    cases h
    exact ⟨x, y, rfl, hb, hx⟩
  · rw [hy, tokens_blanks_append hb, tokens_text hfits, run_cons_eq_ok_iff] at h
    obtain ⟨u, hstep, hrest⟩ := h
    obtain ⟨z, e, hz, he, hread⟩ := (hx.step hb hfits hstep).run r hrest
    refine ⟨z, e, ?_, he, hread⟩
    rw [← hz, hy]
    simp
termination_by y.length
decreasing_by
  have hpos := List.length_pos_iff.mpr hfits.text_ne_nil
  rw [hy]
  simp only [List.length_append]
  omega

/-- At the end of a text everything read is one type. -/
theorem ReadText.finish {x : List Char} {s : Reading} {t : NativeType} (hx : ReadText x s)
    (h : finish s = .ok t) : TypeText x t := by
  obtain ⟨front, current, rfl, hfront, hcurrent⟩ := hx
  obtain ⟨opened, phase⟩ := s
  have hclosed : ∀ {u : NativeType}, finishTyped opened u = .ok t → opened = [] ∧ u = t := by
    intro u hu
    cases opened with
    | nil =>
        cases hu
        exact ⟨rfl, rfl⟩
    | cons _ _ => cases hu
  cases hcurrent with
  | awaiting => cases h
  | named ha hp =>
      obtain ⟨rfl, rfl⟩ := hclosed h
      cases hfront
      have htype := TypeText.path ha hp isBlanks_nil
      rwa [List.append_nil] at htype
  | typed hs =>
      obtain ⟨rfl, rfl⟩ := hclosed h
      cases hfront
      exact hs
  | ranked _ _ _ => cases h

/-- A text that is read as a type names it. -/
theorem typeText_of_ofName {text : List Char} {t : NativeType} (h : ofName text = .ok t) :
    ∃ s b, text = s ++ b ∧ TypeText s t ∧ IsBlanks b := by
  obtain ⟨s', hrun, hfinish⟩ := ofName_eq_ok_iff.mp h
  have hstart : ReadText [] .start := ⟨[], [], rfl, .nil, .awaiting⟩
  obtain ⟨z, b, htext, hb, hread⟩ := hstart.run text hrun
  exact ⟨z, b, htext, hread.finish hfinish, hb⟩

/-! ## 5. Blanks -/

/-- The marks of the grammar. -/
def grammarMarks : List Char := ['<', '>', ',', '[', ']']

/-- One text is another with blanks put in, beside a mark of the grammar or at
an end. -/
inductive Spaced : List Char → List Char → Prop
  | before {c : Char} {b : List Char} (s r : List Char) (hc : c ∈ grammarMarks)
      (hb : IsBlanks b) : Spaced (s ++ c :: r) (s ++ b ++ c :: r)
  | behind {c : Char} {b : List Char} (s r : List Char) (hc : c ∈ grammarMarks)
      (hb : IsBlanks b) : Spaced (s ++ c :: r) (s ++ c :: b ++ r)
  | front {b : List Char} (s : List Char) (hb : IsBlanks b) : Spaced s (b ++ s)
  | rear {b : List Char} (s : List Char) (hb : IsBlanks b) : Spaced s (s ++ b)

theorem isMark_of_mem_grammarMarks {c : Char} (h : c ∈ grammarMarks) : isMark c = true := by
  have hall : ∀ c ∈ grammarMarks, isMark c = true := by decide
  exact hall c h

/-- Blanks that are put in are in no token. -/
theorem Spaced.tokens_eq {s s' : List Char} (h : Spaced s s') : tokens s = tokens s' := by
  cases h with
  | before s r hc hb =>
      have hmark := isMark_of_mem_grammarMarks hc
      rw [tokens_append_mark _ hmark, tokens_append_mark _ hmark, tokens_append_blanks _ hb]
  | @behind c b s r hc hb =>
      have hmark := isMark_of_mem_grammarMarks hc
      rw [List.append_assoc, List.cons_append, tokens_append_mark _ hmark,
        tokens_append_mark _ hmark, tokens_blanks_append hb]
  | front s hb => rw [tokens_blanks_append hb]
  | rear s hb => rw [tokens_append_blanks _ hb]

/-- Texts that differ in such blanks have the same tokens. -/
theorem tokens_eq_of_spaced {s s' : List Char} (h : Relation.EqvGen Spaced s s') :
    tokens s = tokens s' := by
  induction h with
  | rel _ _ h => exact h.tokens_eq
  | refl _ => rfl
  | symm _ _ _ ih => exact ih.symm
  | trans _ _ _ _ _ ih ih' => exact ih.trans ih'

theorem toOption_ofName_congr {s s' : List Char} (h : tokens s = tokens s') :
    (ofName s).toOption = (ofName s').toOption := by
  have hiff : ∀ t, ofName s = .ok t ↔ ofName s' = .ok t := by
    intro t
    rw [ofName_eq_ok_iff, ofName_eq_ok_iff, h]
  cases hs : ofName s with
  | ok t => rw [(hiff t).mp hs]
  | error fault =>
      cases hs' : ofName s' with
      | ok t =>
          rw [(hiff t).mpr hs'] at hs
          cases hs
      | error _ => rfl

/-! ## 6. The grammar and the reader -/

/-- **The reader takes exactly the texts of the grammar**, with blanks behind
them or not, each to the one type that it names. Blanks beside the marks and at
the ends of a text change nothing, whether it names a type or not. -/
theorem ofName_grammar (text : List Char) :
    (∀ t, ofName text = .ok t ↔ ∃ s b, text = s ++ b ∧ TypeText s t ∧ IsBlanks b)
      ∧ (∀ s b s' b' t t', s ++ b = text → TypeText s t → IsBlanks b →
          s' ++ b' = text → TypeText s' t' → IsBlanks b' → t = t')
      ∧ ∀ text', Relation.EqvGen Spaced text text' →
          (ofName text).toOption = (ofName text').toOption := by
  refine ⟨fun t => ⟨typeText_of_ofName, ?_⟩, ?_, fun text' h => ?_⟩
  · rintro ⟨s, b, rfl, hs, hb⟩
    exact ofName_of_typeText hs hb
  · rintro s b s' b' t t' rfl hs hb htext hs' hb'
    have hread := ofName_of_typeText hs hb
    rw [← htext, ofName_of_typeText hs' hb'] at hread
    exact (Except.ok.inj hread).symm
  · exact toOption_ofName_congr (tokens_eq_of_spaced h)

/-- A type of two arguments behind a scope, one of them an array of a nullable
type that is called nullable twice. -/
def mapType : NativeType :=
  .array (.generic (some "Shop") "Map"
    [.primitive .string, .array (.nullable (.primitive .int32)) 2]) 1

/-- Its arguments and the brackets behind them, with blanks beside the marks. -/
def mapArguments : List Char := " String ,Nullable<Nullable<Int32>>[ , ] > [ ] ".toList

/-- The name is a text of the grammar and names no other type. It keeps its
type with another blank in front of its first mark. -/
theorem ofName_grammar_mapType :
    (∃ s b, " Shop.Map ".toList ++ '<' :: mapArguments = s ++ b ∧ TypeText s mapType ∧ IsBlanks b)
      ∧ (∀ s b t, s ++ b = " Shop.Map ".toList ++ '<' :: mapArguments → TypeText s t →
          IsBlanks b → t = mapType)
      ∧ (ofName (" Shop.Map ".toList ++ ['\t'] ++ '<' :: mapArguments)).toOption
          = some mapType := by
  have hread : ofName (" Shop.Map ".toList ++ '<' :: mapArguments) = .ok mapType := by
    decide +kernel
  obtain ⟨hiff, hunique, hspaced⟩ := ofName_grammar (" Shop.Map ".toList ++ '<' :: mapArguments)
  obtain ⟨s, b, htext, hs, hb⟩ := (hiff mapType).mp hread
  refine ⟨⟨s, b, htext, hs, hb⟩, fun s' b' t htext' hs' hb' => ?_, ?_⟩
  · exact hunique s' b' s b t mapType htext' hs' hb' htext.symm hs hb
  · have htab : IsBlanks ['\t'] := by decide
    rw [← hspaced _ (.rel _ _ (.before _ _ (by decide) htab)), hread]
    rfl

end SqlAtlas.NativeType
