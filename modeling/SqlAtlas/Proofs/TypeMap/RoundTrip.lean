/-
SqlAtlas.Proofs.TypeMap.RoundTrip — which types come back from the column
that is made of them, and which do not.

An atom is a type that is not made of others: a scalar, the byte buffer, an
enumeration, the JSON marker or a geometry. Every dialect has a column for
every atom. `round_trip` says that what the column reads back as holds every
value of the atom, except in the four cases of `Lossy`, and that it does not
in any of them.

The four cases are those where two types share a column and the other one is
read back: a duration is kept as a time of day, text of fixed length one as a
character, text as long as an identifier as an identifier, and JSON as text.
They depend on the sizes that are asked for, so the statement is about all of
them, not about the default ones.
-/
import SqlAtlas.Proofs.TypeMap.Recreation

namespace SqlAtlas.TypeMap

/-! ## 1. The statement -/

/-- Whether a type without nullables at the top is made of no other types.
The byte buffer counts as one. -/
def isAtom : NativeType → Bool
  | .primitive _ => true
  | .enum _ _ => true
  | .json => true
  | .geometry _ => true
  | .array t rank => NativeType.array t rank = .bytes
  | _ => false

/-- The descriptors that come back as a type which does not hold all of their
values. -/
inductive Lossy (dialect : Dialect) (x : NativeDescriptor) : Prop
  | duration (ht : x.type.stripNullable = .primitive .duration) (hd : dialect ≠ .postgreSql)
  | character (ht : x.type.stripNullable = .primitive .string) (hf : x.fixed = true)
      (hl : x.length = some (.bounded 1))
  | identifier (ht : x.type.stripNullable = .primitive .string) (hf : x.fixed = true)
      (hl : x.length = some (.bounded 36)) (hd : dialect = .mySql ∨ dialect = .sqlite)
  | json (ht : x.type.stripNullable = .json) (hd : dialect = .sqlServer ∨ dialect = .sqlite)

/-- The sizes of a descriptor are those that a column reports. -/
structure SameSizes (y : NativeDescriptor) (s : SqlType) : Prop where
  length : y.length = s.length
  precision : y.precision = s.precision
  scale : y.scale = s.scale

/-- The column of a descriptor, and what comes back. -/
def RoundTrips (dialect : Dialect) (x : NativeDescriptor) : Prop :=
  ∃ s y, forward dialect x = some s ∧ reverse? dialect s.name.toList = some y
    ∧ (x.type.compatible y.type = false ↔ Lossy dialect x)
    ∧ (x.type.stripNullable = .primitive .decimal → SameSizes y s)
    ∧ (x.type.stripNullable = .primitive .string ∨ x.type.stripNullable = .bytes →
        ¬ Lossy dialect x → SameSizes y s)

/-! ## 2. Columns of text -/

/-- Columns of text report a length and no digits. -/
theorem text_digits (dialect : Dialect) (length : Length) (unicode fixed : Bool) :
    (text dialect length unicode fixed).precision = none
      ∧ (text dialect length unicode fixed).scale = none := by
  cases dialect <;> cases length <;>
    simp only [text, SqlServer.text, MySql.text, PostgreSql.text, Sqlite.text] <;>
    (repeat' split) <;> exact ⟨rfl, rfl⟩

/-- A column of text has the width that is asked for and is fixed if that is
asked for, unless the width is beyond what text of fixed length may have. -/
theorem text_bounded (dialect : Dialect) (width : UInt32) (unicode fixed : Bool) :
    ((text dialect (.bounded width) unicode fixed).length = some (.bounded width)
        ∧ (text dialect (.bounded width) unicode fixed).fixed = fixed)
      ∨ (255 < width ∧ (text dialect (.bounded width) unicode fixed).fixed = false
        ∧ ((text dialect (.bounded width) unicode fixed).length = some (.bounded width)
          ∨ (text dialect (.bounded width) unicode fixed).length = some .max)) := by
  cases dialect with
  | sqlServer =>
      have hlimit : 255 < SqlServer.textLimit unicode := by cases unicode <;> decide
      by_cases h : width ≤ SqlServer.textLimit unicode
      · rw [show text .sqlServer (.bounded width) unicode fixed = _ from if_pos h]
        exact .inl ⟨rfl, rfl⟩
      · rw [show text .sqlServer (.bounded width) unicode fixed = _ from if_neg h]
        exact .inr ⟨UInt32.lt_trans hlimit (UInt32.not_le.mp h), rfl, .inr rfl⟩
  | mySql =>
      by_cases hf : (fixed && width ≤ MySql.fixedLimit) = true
      · rw [show text .mySql (.bounded width) unicode fixed = _ from if_pos hf]
        exact .inl ⟨rfl, ((Bool.and_eq_true _ _).mp hf).1.symm⟩
      · rw [show text .mySql (.bounded width) unicode fixed = _ from if_neg hf]
        by_cases h : width ≤ MySql.textLimit
        · rw [if_pos h]
          cases fixed with
          | false => exact .inl ⟨rfl, rfl⟩
          | true =>
              have hwide : ¬ width ≤ MySql.fixedLimit := by simpa using hf
              exact .inr ⟨UInt32.not_le.mp hwide, rfl, .inl rfl⟩
        · rw [if_neg h]
          have hlimit : 255 < MySql.textLimit := by decide
          exact .inr ⟨UInt32.lt_trans hlimit (UInt32.not_le.mp h), rfl, .inr rfl⟩
  | postgreSql =>
      have hlimit : 255 < PostgreSql.textLimit := by decide
      by_cases h : width ≤ PostgreSql.textLimit
      · rw [show text .postgreSql (.bounded width) unicode fixed = _ from if_pos h]
        exact .inl ⟨rfl, rfl⟩
      · rw [show text .postgreSql (.bounded width) unicode fixed = _ from if_neg h]
        exact .inr ⟨UInt32.lt_trans hlimit (UInt32.not_le.mp h), rfl, .inr rfl⟩
  | sqlite => exact .inl ⟨rfl, rfl⟩

theorem text_max (dialect : Dialect) (unicode fixed : Bool) :
    (text dialect .max unicode fixed).length = some .max := by
  cases dialect <;> rfl

/-- A column of text has a short fixed length exactly if that is asked for. -/
theorem text_fixed_iff (dialect : Dialect) (length : Length) (unicode fixed : Bool)
    {width : UInt32} (hw : width ≤ 255) :
    ((text dialect length unicode fixed).fixed = true
        ∧ (text dialect length unicode fixed).length = some (.bounded width))
      ↔ (fixed = true ∧ length = .bounded width) := by
  cases length with
  | max => simp [text_max]
  | bounded own =>
      rcases text_bounded dialect own unicode fixed with ⟨hl, hf⟩ | ⟨hwide, hf, -⟩
      · simp [hl, hf]
      · have hne : own ≠ width := by
          rintro rfl
          exact absurd hw (UInt32.not_le.mpr hwide)
        simp [hf, hne]

/-- Text of other sizes than a character or an identifier comes back as text
of its sizes. -/
theorem ofTextSizes_plain (dialect : Dialect) {length : Length} {unicode fixed : Bool}
    (hone : ¬ (fixed = true ∧ length = .bounded 1))
    (huuid : ¬ (keepsUuidAsText dialect ∧ fixed = true ∧ length = .bounded 36)) :
    (ofTextSizes dialect (text dialect length unicode fixed).toSizing).type = .primitive .string
      ∧ SameSizes (ofTextSizes dialect (text dialect length unicode fixed).toSizing)
          (text dialect length unicode fixed) := by
  have hdigits := text_digits dialect length unicode fixed
  rw [ofTextSizes, if_neg, if_neg]
  · exact ⟨rfl, rfl, hdigits.1.symm, hdigits.2.symm⟩
  · rintro ⟨hkeeps, h⟩
    exact huuid ⟨hkeeps, (text_fixed_iff dialect length unicode fixed (by decide)).mp h⟩
  · exact fun h => hone ((text_fixed_iff dialect length unicode fixed (by decide)).mp h)

theorem ofTextSizes_character (dialect : Dialect) (unicode : Bool) :
    (ofTextSizes dialect (text dialect (.bounded 1) unicode true).toSizing).type
      = .primitive .char := by
  rw [ofTextSizes, if_pos]
  · rfl
  · exact (text_fixed_iff dialect (.bounded 1) unicode true (by decide)).mpr ⟨rfl, rfl⟩

theorem ofTextSizes_identifier {dialect : Dialect} (h : keepsUuidAsText dialect = true)
    (unicode : Bool) :
    (ofTextSizes dialect (text dialect (.bounded 36) unicode true).toSizing).type
      = .primitive .uuid := by
  rw [ofTextSizes, if_neg, if_pos]
  · rfl
  · exact ⟨h, (text_fixed_iff dialect (.bounded 36) unicode true (by decide)).mpr ⟨rfl, rfl⟩⟩
  · intro hone
    have := (text_fixed_iff dialect (.bounded 36) unicode true (by decide)).mp hone
    exact absurd this.2 (by decide)

/-! ## 3. Atoms -/

/-- Nullables at the top take no part in whether values survive. -/
theorem compatible_stripNullable (u : NativeType) : ∀ t : NativeType,
    t.stripNullable.compatible u = t.compatible u
  | .nullable t => by
      rw [NativeType.stripNullable, compatible_stripNullable u t, NativeType.compatible]
  | .primitive _ | .array _ _ | .generic _ _ _ | .enum _ _ | .json | .geometry _ | .named _ => rfl

/-- A trip may be looked at without the nullables at the top. -/
theorem RoundTrips.of_stripped {dialect : Dialect} {x : NativeDescriptor} {type : NativeType}
    (ht : x.type.stripNullable = type) {s : SqlType} {y : NativeDescriptor}
    (hs : ofStripped dialect (x.withType type) = some s)
    (hy : reverse? dialect s.name.toList = some y)
    (hc : type.compatible y.type = false ↔ Lossy dialect x)
    (hdigits : type = .primitive .decimal → SameSizes y s)
    (hsizes : type = .primitive .string ∨ type = .bytes → ¬ Lossy dialect x → SameSizes y s) :
    RoundTrips dialect x := by
  subst ht
  refine ⟨s, y, hs, hy, ?_, hdigits, hsizes⟩
  rw [← compatible_stripNullable]
  exact hc

/-- Among the scalars other than text, only a duration can be lost. -/
theorem lossy_iff_of_primitive {dialect : Dialect} {x : NativeDescriptor} {kind : Primitive}
    (ht : x.type.stripNullable = .primitive kind) (hk : kind ≠ .string) :
    Lossy dialect x ↔ kind = .duration ∧ dialect ≠ .postgreSql := by
  constructor
  · intro h
    cases h with
    | duration ht' hd =>
        cases ht.symm.trans ht'
        exact ⟨rfl, hd⟩
    | character ht' _ _ =>
        cases ht.symm.trans ht'
        exact absurd rfl hk
    | identifier ht' _ _ _ =>
        cases ht.symm.trans ht'
        exact absurd rfl hk
    | json ht' _ => cases ht.symm.trans ht'
  · rintro ⟨rfl, hd⟩
    exact .duration ht hd

theorem ofScalarSizes_type {kind : Primitive} (h : takesSizes kind = false) (dialect : Dialect)
    (s : Sizing) : (ofScalarSizes dialect kind s).type = .primitive (storedAs dialect kind) := by
  have hplain : ¬ (kind = .char ∨ kind = .string) := by
    rintro (rfl | rfl) <;> cases h
  rw [ofScalarSizes, if_neg hplain]
  split
  · rename_i hs
    rw [hs]
    rfl
  · rfl

/-- The stored type holds every value, but for durations. -/
theorem widensTo_storedAs (dialect : Dialect) (kind : Primitive) :
    kind.widensTo (storedAs dialect kind) = false
      ↔ kind = .duration ∧ dialect ≠ .postgreSql := by
  cases dialect <;> cases kind <;> decide

/-- What a scalar other than text comes back as holds every value of it, but for
durations. -/
theorem compatible_ofScalarSizes (dialect : Dialect) {kind : Primitive} (hk : kind ≠ .string)
    (d : NativeDescriptor) :
    (NativeType.primitive kind).compatible
        (ofScalarSizes dialect kind (primitive dialect kind d).toSizing).type = false
      ↔ kind = .duration ∧ dialect ≠ .postgreSql := by
  rw [NativeType.compatible]
  cases h : takesSizes kind with
  | false =>
      rw [ofScalarSizes_type h, ← widensTo_storedAs]
      rfl
  | true =>
      cases kind <;> cases h
      case decimal.refl =>
        cases dialect <;> simp [ofScalarSizes, storedAs, ofDigitSizes, NativeType.stripNullable,
          Primitive.widensTo]
      case char.refl =>
        rw [primitive_char, ofScalarSizes, if_pos (.inl rfl), ofTextSizes_character]
        exact iff_of_false (by decide) (fun h => by cases h.1)
      case string.refl => exact absurd rfl hk

theorem roundTrips_primitive (dialect : Dialect) {x : NativeDescriptor}
    (hx : x.length ≠ some (.bounded 0)) {kind : Primitive}
    (ht : x.type.stripNullable = .primitive kind) (hk : kind ≠ .string) :
    RoundTrips dialect x := by
  have hlossy : Lossy dialect x ↔ kind = .duration ∧ dialect ≠ .postgreSql :=
    lossy_iff_of_primitive ht hk
  have hother : ¬ (NativeType.primitive kind = .primitive .string
      ∨ NativeType.primitive kind = .bytes) := by
    rintro (h | h)
    · exact hk (NativeType.primitive.inj h)
    · cases h
  have hreverse := reverse?_primitive dialect kind (d := x.withType (.primitive kind)) hx
  refine .of_stripped ht rfl hreverse ?_ ?_ (fun h => absurd h hother)
  · rw [hlossy]
    exact compatible_ofScalarSizes dialect hk _
  · intro h
    cases h
    obtain ⟨precision, scale, hp⟩ := primitive_decimal dialect (x.withType (.primitive .decimal))
    rw [hp]
    cases dialect <;> exact ⟨rfl, rfl, rfl⟩

/-- The length of text is asked for where it is not the default. -/
theorem textLength_eq_bounded {d : NativeDescriptor} {width : UInt32} (hw : width ≠ 255) :
    textLength d = .bounded width ↔ d.length = some (.bounded width) := by
  cases h : d.length with
  | none => simp [textLength, h, defaultTextLength, hw.symm]
  | some length => simp [textLength, h]

theorem keepsUuidAsText_iff (dialect : Dialect) :
    keepsUuidAsText dialect = true ↔ dialect = .mySql ∨ dialect = .sqlite := by
  cases dialect <;> simp [keepsUuidAsText]

theorem keepsJsonAsText_iff (dialect : Dialect) :
    keepsJsonAsText dialect = true ↔ dialect = .sqlServer ∨ dialect = .sqlite := by
  cases dialect <;> simp [keepsJsonAsText]

/-- Text is lost where its column reads back as another type. -/
theorem lossy_iff_of_string {dialect : Dialect} {x : NativeDescriptor}
    (ht : x.type.stripNullable = .primitive .string) :
    Lossy dialect x ↔ (x.fixed = true ∧ textLength x = .bounded 1)
      ∨ (keepsUuidAsText dialect = true ∧ x.fixed = true ∧ textLength x = .bounded 36) := by
  rw [textLength_eq_bounded (by decide), textLength_eq_bounded (by decide), keepsUuidAsText_iff]
  constructor
  · intro h
    cases h with
    | duration ht' _ => cases ht.symm.trans ht'
    | character _ hf hl => exact .inl ⟨hf, hl⟩
    | identifier _ hf hl hd => exact .inr ⟨hd, hf, hl⟩
    | json ht' _ => cases ht.symm.trans ht'
  · rintro (⟨hf, hl⟩ | ⟨hd, hf, hl⟩)
    · exact .character ht hf hl
    · exact .identifier ht hf hl hd

theorem roundTrips_string (dialect : Dialect) {x : NativeDescriptor}
    (hx : x.length ≠ some (.bounded 0)) (ht : x.type.stripNullable = .primitive .string) :
    RoundTrips dialect x := by
  have hs : ofStripped dialect (x.withType (.primitive .string))
      = some (text dialect (textLength x) x.unicode x.fixed) :=
    congrArg some (primitive_string dialect (x.withType (.primitive .string)))
  have hlossy : Lossy dialect x ↔ _ := lossy_iff_of_string ht
  refine .of_stripped ht hs (reverse?_text dialect (textLength_ne_zero hx) _ _) ?_
    (fun h => by cases h) (fun _ h => ?_)
  · rw [hlossy]
    by_cases hone : x.fixed = true ∧ textLength x = .bounded 1
    · rw [hone.1, hone.2, NativeType.compatible, ofTextSizes_character]
      exact iff_of_true (by decide) (.inl ⟨rfl, rfl⟩)
    · by_cases huuid : keepsUuidAsText dialect = true ∧ x.fixed = true ∧ textLength x = .bounded 36
      · rw [huuid.2.1, huuid.2.2, NativeType.compatible, ofTextSizes_identifier huuid.1]
        exact iff_of_true (by decide) (.inr ⟨huuid.1, rfl, rfl⟩)
      · rw [(ofTextSizes_plain dialect hone huuid).1]
        exact iff_of_false (by decide) (not_or.mpr ⟨hone, huuid⟩)
  · rw [hlossy, not_or] at h
    exact (ofTextSizes_plain dialect h.1 h.2).2

/-- No atom is lost but a duration, text and JSON. -/
theorem not_lossy {dialect : Dialect} {x : NativeDescriptor} {type : NativeType}
    (ht : x.type.stripNullable = type) (hp : ∀ kind, type ≠ .primitive kind)
    (hj : type ≠ .json) : ¬ Lossy dialect x := by
  intro h
  cases h with
  | duration ht' _ => exact hp _ (ht.symm.trans ht')
  | character ht' _ _ => exact hp _ (ht.symm.trans ht')
  | identifier ht' _ _ _ => exact hp _ (ht.symm.trans ht')
  | json ht' _ => exact hj (ht.symm.trans ht')

theorem roundTrips_enum (dialect : Dialect) {x : NativeDescriptor}
    (hx : x.length ≠ some (.bounded 0)) {name : String} {members : List String}
    (ht : x.type.stripNullable = .enum name members) : RoundTrips dialect x := by
  have hreverse := reverse?_text dialect (enumLength_ne_zero members hx) x.unicode false
  have htext : (ofTextSizes dialect
      (text dialect (enumLength members x.length) x.unicode false).toSizing).type
        = .primitive .string :=
    (ofTextSizes_plain dialect (by simp) (by simp)).1
  refine .of_stripped ht rfl hreverse ?_ (fun h => by cases h)
    (fun h => by rcases h with h | h <;> cases h)
  rw [NativeType.compatible, htext]
  exact iff_of_false (by simp [NativeType.stripNullable])
    (not_lossy ht (fun _ h => by cases h) (fun h => by cases h))

theorem binary_digits (dialect : Dialect) (d : NativeDescriptor) :
    (binary dialect d).precision = none ∧ (binary dialect d).scale = none := by
  cases dialect <;> simp only [binary, SqlServer.binary, MySql.binary, PostgreSql.binary,
    Sqlite.binary] <;> (repeat' split) <;> exact ⟨rfl, rfl⟩

theorem roundTrips_bytes (dialect : Dialect) {x : NativeDescriptor}
    (hx : x.length ≠ some (.bounded 0)) (ht : x.type.stripNullable = .bytes) :
    RoundTrips dialect x := by
  have hforward : ofStripped dialect (x.withType .bytes)
      = some (binary dialect (x.withType .bytes)) :=
    forward_bytes dialect x.toSizing
  have hdigits := binary_digits dialect (x.withType .bytes)
  refine .of_stripped ht hforward (reverse?_binary dialect hx) ?_ (fun h => by cases h)
    (fun _ _ => ⟨rfl, hdigits.1.symm, hdigits.2.symm⟩)
  have hc : NativeType.bytes.compatible .bytes = true := by decide
  exact iff_of_false (by simp [ofByteSizes, hc])
    (not_lossy ht (fun _ h => by cases h) (fun h => by cases h))

theorem roundTrips_json (dialect : Dialect) {x : NativeDescriptor}
    (ht : x.type.stripNullable = .json) : RoundTrips dialect x := by
  refine .of_stripped ht rfl (reverse?_jsonText dialect x.unicode) ?_ (fun h => by cases h)
    (fun h => by rcases h with h | h <;> cases h)
  have hlossy : Lossy dialect x ↔ keepsJsonAsText dialect = true := by
    rw [keepsJsonAsText_iff]
    constructor
    · intro h
      cases h with
      | duration ht' _ => cases ht.symm.trans ht'
      | character ht' _ _ => cases ht.symm.trans ht'
      | identifier ht' _ _ _ => cases ht.symm.trans ht'
      | json _ hd => exact hd
    · exact .json ht
  rw [hlossy, ofJsonSizes]
  cases h : keepsJsonAsText dialect with
  | false =>
      rw [if_neg (by decide)]
      exact iff_of_false (by decide) (by decide)
  | true =>
      have htext : jsonText dialect x.unicode = text dialect .max x.unicode false := by
        cases dialect with
        | sqlServer => rfl
        | sqlite => rfl
        | mySql => cases h
        | postgreSql => cases h
      rw [if_pos rfl, htext, (ofTextSizes_plain dialect (by simp) (by simp)).1]
      exact iff_of_true (by decide) rfl

theorem roundTrips_geometry (dialect : Dialect) {x : NativeDescriptor} {shape? : Option Geometry}
    (ht : x.type.stripNullable = .geometry shape?) : RoundTrips dialect x := by
  refine .of_stripped ht rfl (reverse?_geometry dialect shape?) ?_ (fun h => by cases h)
    (fun h => by rcases h with h | h <;> cases h)
  have hc : (NativeType.geometry shape?).compatible (.geometry (storedShape dialect shape?))
      = true := by
    cases dialect <;> simp [NativeType.compatible, NativeType.stripNullable, storedShape]
  refine iff_of_false ?_ (not_lossy ht (fun _ h => by cases h) (fun h => by cases h))
  rw [NativeDescriptor.ofType, hc]
  decide

/-! ## 4. The round trip -/

/-- **The round trip of an atom.** Every atom has a column in every dialect,
and what comes back from it holds every value of the atom exactly when the
descriptor is not lossy. Decimal numbers come back with the sizes of their
column, and text and byte buffers with theirs wherever they come back at
all. -/
theorem round_trip (dialect : Dialect) {x : NativeDescriptor} (hx : x.Built)
    (ha : isAtom x.type.stripNullable = true) :
    ∃ s y, forward dialect x = some s ∧ reverse? dialect s.name.toList = some y
      ∧ (x.type.compatible y.type = false ↔ Lossy dialect x)
      ∧ (x.type.stripNullable = .primitive .decimal → SameSizes y s)
      ∧ (x.type.stripNullable = .primitive .string ∨ x.type.stripNullable = .bytes →
          ¬ Lossy dialect x → SameSizes y s) := by
  have hl := hx.length_ne_zero
  change RoundTrips dialect x
  cases ht : x.type.stripNullable with
  | primitive kind =>
      by_cases hk : kind = .string
      · subst hk
        exact roundTrips_string dialect hl ht
      · exact roundTrips_primitive dialect hl ht hk
  | enum name members => exact roundTrips_enum dialect hl ht
  | json => exact roundTrips_json dialect ht
  | geometry shape? => exact roundTrips_geometry dialect ht
  | array t rank =>
      rw [ht] at ha
      exact roundTrips_bytes dialect hl (ht.trans (of_decide_eq_true ha))
  | nullable t =>
      rw [ht] at ha
      cases ha
  | generic scope? name arguments =>
      rw [ht] at ha
      cases ha
  | named name =>
      rw [ht] at ha
      cases ha

/-- Text of the length of an identifier, below a nullable. -/
def identifierText : NativeDescriptor :=
  ((NativeDescriptor.ofType (.nullable (.primitive .string))).withLength (.bounded 36)).withFixed
    true

/-- Text as long as an identifier has a column in MySQL, and is lost. -/
theorem round_trip_identifierText : Lossy .mySql identifierText
    ∧ ∃ s y, forward .mySql identifierText = some s ∧ reverse? .mySql s.name.toList = some y
      ∧ (identifierText.type.compatible y.type = false ↔ Lossy .mySql identifierText)
      ∧ (identifierText.type.stripNullable = .primitive .decimal → SameSizes y s)
      ∧ (identifierText.type.stripNullable = .primitive .string
            ∨ identifierText.type.stripNullable = .bytes →
          ¬ Lossy .mySql identifierText → SameSizes y s) := by
  have hbuilt : identifierText.Built := .withFixed (.withLength (.ofType _) _) _
  exact ⟨.identifier rfl rfl rfl (.inl rfl), round_trip .mySql hbuilt rfl⟩

end SqlAtlas.TypeMap
