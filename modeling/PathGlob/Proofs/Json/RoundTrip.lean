import PathGlob.Json.Construction
import PathGlob.Proofs.Glob.Matching

/-!
# PathGlob.Proofs.Json.RoundTrip

**Rule sets are read back as they were written** (`roundTrip`). A glob is written as its pattern
alone, so this rests on the components of a glob being those of its pattern, however the glob came
about. Several shapes of JSON are read as a rule set, but only one is written, which is reached
after the first time.

What is read says exactly which patterns the JSON holds (`decodeGlobSet_eq_ok_iff`), and so do the
steps of putting a set together (`Construction.holds_of_build`).
-/

namespace PathGlob.Json

variable {value : Value} {items : List Value} {glob : Glob} {globs : List Glob} {set : GlobSet}

/-! ### Globs -/

theorem decodeGlob_eq_ok_iff : decodeGlob value = .ok glob ↔ value = encodeGlob glob := by
  cases value with
  | string text =>
    rw [decodeGlob, mapError_eq_ok_iff, Glob.ofText_eq_ok_iff, encodeGlob, Value.string.injEq,
      eq_comm]
  | null | bool | integer | float | array | object => simp [decodeGlob, encodeGlob]

theorem decodeItems_cons_eq_ok_iff {item : Value} :
    decodeItems (item :: items) = .ok globs ↔
      ∃ glob more, globs = glob :: more ∧ decodeGlob item = .ok glob ∧
        decodeItems items = .ok more := by
  rw [decodeItems]
  cases decodeGlob item with
  | error error => simp
  | ok glob =>
    simp only [map_eq_ok_iff, Except.ok.injEq]
    constructor
    · rintro ⟨more, read, rfl⟩
      exact ⟨glob, more, rfl, rfl, read⟩
    · rintro ⟨_, more, rfl, rfl, read⟩
      exact ⟨more, read, rfl⟩

/-- Lists are read item by item, and nothing is left out. -/
theorem decodeItems_eq_ok_iff : decodeItems items = .ok globs ↔ items = globs.map encodeGlob := by
  induction items generalizing globs with
  | nil => simp [decodeItems, eq_comm]
  | cons item items ih =>
    rw [decodeItems_cons_eq_ok_iff, eq_comm (b := globs.map encodeGlob), List.map_eq_cons_iff]
    simp only [decodeGlob_eq_ok_iff, ih, eq_comm (a := item), eq_comm (a := items)]

theorem map_encodeGlob (globs : List Glob) :
    globs.map encodeGlob = (globs.map Glob.text).map .string := by
  rw [List.map_map]
  rfl

theorem decodeGlobs_eq_ok_iff {list : Option Value} :
    decodeGlobs list = .ok globs ↔ HoldsList list (globs.map Glob.text) := by
  constructor
  · intro h
    unfold decodeGlobs at h
    split at h
    · cases h
      exact .absent
    · rw [decodeItems_eq_ok_iff.1 h, map_encodeGlob]
      exact .array _
    · cases h
  · intro h
    generalize texts : globs.map Glob.text = patterns at h
    cases h with
    | absent => rw [List.map_eq_nil_iff.1 texts, decodeGlobs]
    | array patterns => rw [decodeGlobs, decodeItems_eq_ok_iff, map_encodeGlob, texts]

/-! ### Rule sets -/

theorem decodeGlobSet_object_eq_ok_iff {fields : List (Text × Value)} :
    decodeGlobSet (.object fields) = .ok set ↔
      decodeGlobs (fields.lookup "include".toList) = .ok set.includes ∧
        decodeGlobs (fields.lookup "exclude".toList) = .ok set.excludes := by
  rw [decodeGlobSet]
  cases decodeGlobs (fields.lookup "exclude".toList) with
  | error error => simp
  | ok excludes =>
    rw [map_eq_ok_iff]
    constructor
    · rintro ⟨includes, read, rfl⟩
      exact ⟨read, rfl⟩
    · rintro ⟨read, same⟩
      obtain rfl := Except.ok.inj same
      exact ⟨set.includes, read, rfl⟩

theorem decodeGlobSet_array_eq_ok_iff :
    decodeGlobSet (.array items) = .ok set ↔
      items.length ≤ 2 ∧ decodeGlobs items[0]? = .ok set.includes ∧
        decodeGlobs items[1]? = .ok set.excludes := by
  rw [decodeGlobSet]
  cases decodeGlobs items[0]? with
  | error error => simp
  | ok includes =>
    cases decodeGlobs items[1]? with
    | error error => simp
    | ok excludes =>
      cases set
      simp only [Except.ok.injEq]
      split <;> simp [*]

/-- A value is read as a rule set if and only if it holds the patterns of the set. -/
theorem decodeGlobSet_eq_ok_iff :
    decodeGlobSet value = .ok set ↔
      HoldsSet value (set.includes.map Glob.text) (set.excludes.map Glob.text) := by
  constructor
  · intro read
    cases value with
    | object fields =>
      rw [decodeGlobSet_object_eq_ok_iff, decodeGlobs_eq_ok_iff, decodeGlobs_eq_ok_iff] at read
      exact .object read.1 read.2
    | array items =>
      rw [decodeGlobSet_array_eq_ok_iff, decodeGlobs_eq_ok_iff, decodeGlobs_eq_ok_iff] at read
      exact .array read.1 read.2.1 read.2.2
    | null | bool | integer | float | string => cases read
  · intro holds
    cases holds with
    | object includes excludes =>
      rw [decodeGlobSet_object_eq_ok_iff, decodeGlobs_eq_ok_iff, decodeGlobs_eq_ok_iff]
      exact ⟨includes, excludes⟩
    | array short includes excludes =>
      rw [decodeGlobSet_array_eq_ok_iff, decodeGlobs_eq_ok_iff, decodeGlobs_eq_ok_iff]
      exact ⟨short, includes, excludes⟩

theorem encodeGlobSet_eq_writtenSet (set : GlobSet) :
    encodeGlobSet set =
      writtenSet (set.includes.map Glob.text) (set.excludes.map Glob.text) := by
  rw [encodeGlobSet, writtenSet, map_encodeGlob, map_encodeGlob]

theorem holdsSet_writtenSet (includes excludes : List Text) :
    HoldsSet (writtenSet includes excludes) includes excludes :=
  .object (.array includes) (.array excludes)

/-- What is written is read as the same set. -/
theorem decodeGlobSet_encodeGlobSet (set : GlobSet) :
    decodeGlobSet (encodeGlobSet set) = .ok set := by
  rw [decodeGlobSet_eq_ok_iff, encodeGlobSet_eq_writtenSet]
  exact holdsSet_writtenSet _ _

/-! ### Constructions -/

/-- A glob comes out of its pattern. -/
theorem GlobSource.holds_of_build {source : GlobSource} (built : source.build = .ok glob) :
    source.Holds glob.text := by
  cases source with
  | pattern text =>
    rw [build, mapError_eq_ok_iff, Glob.ofText_eq_ok_iff] at built
    exact built ▸ .pattern text
  | json value =>
    obtain rfl := decodeGlob_eq_ok_iff.1 built
    exact .json glob.text

/-- A rule set has the patterns that went into it, in their order. -/
theorem Construction.holds_of_build {construction : Construction}
    (built : construction.build = .ok set) :
    construction.Holds (set.includes.map Glob.text) (set.excludes.map Glob.text) := by
  induction construction generalizing set with
  | empty =>
    cases built
    exact .empty
  | json value => exact .json (decodeGlobSet_eq_ok_iff.1 built)
  | addInclude before source ih =>
    obtain ⟨before, builtBefore, rest⟩ := bind_eq_ok_iff.1 built
    obtain ⟨glob, builtGlob, rfl⟩ := map_eq_ok_iff.1 rest
    rw [List.map_append]
    exact .addInclude (ih builtBefore) (GlobSource.holds_of_build builtGlob)
  | addExclude before source ih =>
    obtain ⟨before, builtBefore, rest⟩ := bind_eq_ok_iff.1 built
    obtain ⟨glob, builtGlob, rfl⟩ := map_eq_ok_iff.1 rest
    rw [List.map_append]
    exact .addExclude (ih builtBefore) (GlobSource.holds_of_build builtGlob)
  | extend first second ih ihOther =>
    obtain ⟨first, builtFirst, rest⟩ := bind_eq_ok_iff.1 built
    obtain ⟨second, builtSecond, rfl⟩ := map_eq_ok_iff.1 rest
    rw [GlobSet.extend, List.map_append, List.map_append]
    exact .extend (ih builtFirst) (ihOther builtSecond)

/-! ### Main result -/

/-- **Round trip.** However a glob or a rule set comes about, it is written by the patterns that
went into it, in their order, and is read back as the same glob or set. A value is read as the set
whose patterns it holds, in whatever shape; the set is written with exactly two keys, and that form
is kept from then on. -/
theorem roundTrip :
    (∀ source glob, GlobSource.build source = .ok glob →
      ∃ text, source.Holds text ∧ encodeGlob glob = .string text ∧
        decodeGlob (encodeGlob glob) = .ok glob) ∧
    (∀ construction set, Construction.build construction = .ok set →
      ∃ includes excludes, construction.Holds includes excludes ∧
        encodeGlobSet set = writtenSet includes excludes ∧
        decodeGlobSet (encodeGlobSet set) = .ok set) ∧
    ∀ value set,
      (decodeGlobSet value = .ok set ↔
        HoldsSet value (set.includes.map Glob.text) (set.excludes.map Glob.text)) ∧
      encodeGlobSet set = writtenSet (set.includes.map Glob.text) (set.excludes.map Glob.text) ∧
      ∃ again, decodeGlobSet (encodeGlobSet set) = .ok again ∧
        encodeGlobSet again = encodeGlobSet set := by
  refine ⟨fun source glob built => ?_, fun construction set built => ?_, fun value set => ?_⟩
  · exact ⟨glob.text, GlobSource.holds_of_build built, rfl, decodeGlob_eq_ok_iff.2 rfl⟩
  · exact ⟨_, _, Construction.holds_of_build built, encodeGlobSet_eq_writtenSet set,
      decodeGlobSet_encodeGlobSet set⟩
  · exact ⟨decodeGlobSet_eq_ok_iff, encodeGlobSet_eq_writtenSet set, set,
      decodeGlobSet_encodeGlobSet set, rfl⟩

/-- A set that is read from an array and extended by one with a glob of either source. -/
theorem roundTrip_extend :
    let pattern : Text := "**/\x7bb,a\x7d".toList
    let construction : Construction :=
      .extend (.json (.array [.array [.string pattern, .string pattern]]))
        (.addExclude (.addInclude .empty (.pattern pattern)) (.json (.string pattern)))
    ∃ set includes excludes, construction.build = .ok set ∧
      construction.Holds includes excludes ∧ encodeGlobSet set = writtenSet includes excludes ∧
        decodeGlobSet (encodeGlobSet set) = .ok set := by
  intro pattern construction
  obtain ⟨set, built⟩ := exists_eq_ok_of_isOk
    (show construction.build.isOk = true by decide +kernel)
  obtain ⟨includes, excludes, holds⟩ := roundTrip.2.1 construction set built
  exact ⟨set, includes, excludes, built, holds⟩

end PathGlob.Json
