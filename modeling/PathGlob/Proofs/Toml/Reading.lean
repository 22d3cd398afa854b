import PathGlob.Proofs.Toml.Keys
import PathGlob.Toml.Writing

/-!
# PathGlob.Proofs.Toml.Reading

**A document of lists is read back** (`document_of_isListing`): its entries are the lists that were
written, in their order, whatever the strings in them are.
-/

namespace PathGlob.Toml

variable {c : Char} {t rest : Text} {texts : List Text} {fuel depth : Nat}

/-! ### Strings -/

/-- The character of a code point is found again by it. -/
theorem dite_isValidChar_eq {n : Nat} (same : n = c.toNat) (fault : Result Char) :
    (if h : n.isValidChar then .ok (Char.ofNatAux n h, rest) else fault) = .ok (c, rest) := by
  subst same
  have valid : c.toNat.isValidChar := c.valid
  have character := Char.ofNat_toNat c
  rw [Char.ofNat, dif_pos valid] at character
  rw [dif_pos valid, character]

/-- The four digits of a character that may not stand in a string are its code point. -/
theorem codePoint_zeroPad (small : c.toNat < 0x80) :
    codePoint 4 (Text.zeroPad 4 (Nat.toDigits 16 c.toNat) ++ rest) = .ok (c, rest) := by
  have all : ∀ n < 0x80, (Text.zeroPad 4 (Nat.toDigits 16 n)).length = 4 ∧
      ((Text.zeroPad 4 (Nat.toDigits 16 n)).takeWhile fun c =>
        (Decimal.digit? 16 c).isSome) = Text.zeroPad 4 (Nat.toDigits 16 n) ∧
      ((Text.zeroPad 4 (Nat.toDigits 16 n)).filterMap (Decimal.digit? 16)).length = 4 ∧
      Decimal.ofDigits 16 ((Text.zeroPad 4 (Nat.toDigits 16 n)).filterMap (Decimal.digit? 16)) =
        n := by decide
  obtain ⟨length, whole, digits, value⟩ := all c.toNat small
  have first : (Text.zeroPad 4 (Nat.toDigits 16 c.toNat) ++ rest).take 4 =
      Text.zeroPad 4 (Nat.toDigits 16 c.toNat) := List.take_left' length
  have others : (Text.zeroPad 4 (Nat.toDigits 16 c.toNat) ++ rest).drop 4 = rest :=
    List.drop_left' length
  dsimp only [codePoint]
  rw [first, others, whole, if_neg (by rw [digits]; decide)]
  exact dite_isValidChar_eq value _

theorem basicChars_of_isStringChar {before : Text} (plain : isStringChar c)
    (quote : c ≠ '"') (backslash : c ≠ '\\') :
    basicChars (fuel + 1) before (c :: rest) = basicChars fuel (c :: before) rest := by
  rw [basicChars]
  · simp [plain]
  all_goals
    intros
    simp_all

theorem basicChars_escape {s before : Text} (stands : escape s = .ok (c, rest)) :
    basicChars (fuel + 1) before ('\\' :: s) = basicChars fuel (c :: before) rest := by
  cases s with
  | nil => cases stands
  | cons d s =>
    -- The alternatives in front of this one are for other first characters
    rw [basicChars]
    · rw [stands]
    all_goals
      intros
      simp_all

theorem toNat_lt_of_not_isStringChar (h : ¬ isStringChar c) : c.toNat < 0x80 := by
  simp only [isStringChar, isCommentChar, Bool.or_eq_true, Bool.and_eq_true, decide_eq_true_eq,
    bne_iff_ne, not_or, not_and_or, not_not] at h
  rcases h.2 with low | rfl
  · have below : c.toNat < ' '.toNat := Char.not_le.1 low
    exact Nat.lt_trans below (by decide)
  · decide

/-- Every character is read from what is written for it. -/
theorem basicChars_writeChar {before : Text} (c : Char) :
    basicChars (fuel + 1) before (writeChar c ++ rest) = basicChars fuel (c :: before) rest := by
  unfold writeChar
  split
  · next special =>
    have stands : escape (c :: rest) = .ok (c, rest) := by
      simp only [Bool.or_eq_true, decide_eq_true_eq] at special
      rcases special with rfl | rfl <;> rfl
    exact basicChars_escape stands
  · next notSpecial =>
    simp only [Bool.or_eq_true, decide_eq_true_eq, not_or] at notSpecial
    split
    · next plain => exact basicChars_of_isStringChar plain notSpecial.1 notSpecial.2
    · next notPlain =>
      have stands : escape ('u' :: (Text.zeroPad 4 (Nat.toDigits 16 c.toNat) ++ rest)) =
          .ok (c, rest) := codePoint_zeroPad (toNat_lt_of_not_isStringChar notPlain)
      exact basicChars_escape stands

theorem basicChars_flatMap {before : Text} (room : t.length < fuel) :
    basicChars fuel before (t.flatMap writeChar ++ '"' :: rest) =
      .ok (before.reverse ++ t, rest) := by
  induction t generalizing fuel before with
  | nil =>
    obtain ⟨fuel, rfl⟩ := Nat.exists_eq_add_one.2 (show 0 < fuel by omega)
    simp [basicChars]
  | cons c t ih =>
    obtain ⟨fuel, rfl⟩ := Nat.exists_eq_add_one.2 (show 0 < fuel by omega)
    rw [List.flatMap_cons, List.append_assoc, basicChars_writeChar,
      ih (Nat.lt_of_succ_lt_succ room), List.reverse_cons, List.append_assoc,
      List.singleton_append]

/-- What is written for a character starts with something else than a quote. -/
theorem exists_writeChar_eq_cons (c : Char) : ∃ d s, writeChar c = d :: s ∧ d ≠ '"' := by
  unfold writeChar
  split
  · exact ⟨'\\', [c], rfl, by decide⟩
  · next notSpecial =>
    simp only [Bool.or_eq_true, decide_eq_true_eq, not_or] at notSpecial
    split
    · exact ⟨c, [], rfl, notSpecial.1⟩
    · exact ⟨'\\', _, rfl, by decide⟩

theorem length_le_length_flatMap (t : Text) : t.length ≤ (t.flatMap writeChar).length := by
  induction t with
  | nil => exact Nat.le_refl 0
  | cons c t ih =>
    obtain ⟨d, s, start, -⟩ := exists_writeChar_eq_cons c
    rw [List.flatMap_cons, start, List.cons_append, List.length_cons, List.length_cons,
      List.length_append]
    omega

theorem basicString_flatMap : basicString (t.flatMap writeChar ++ '"' :: rest) = .ok (t, rest) := by
  have room : t.length < (t.flatMap writeChar ++ '"' :: rest).length + 1 := by
    have short := length_le_length_flatMap t
    rw [List.length_append]
    omega
  rw [basicString, basicChars_flatMap room, List.reverse_nil, List.nil_append]

/-- A written string is read back. As three quotes would start a string of another kind, none may
follow. -/
theorem string_writeString (noQuote : rest.head? ≠ some '"') :
    string (writeString t ++ rest) = .ok (t, rest) := by
  have text : writeString t ++ rest = '"' :: (t.flatMap writeChar ++ '"' :: rest) := by
    simp [writeString]
  rw [text, string, basicString_flatMap]
  intro more same
  cases t with
  | nil =>
    rw [List.flatMap_nil, List.nil_append] at same
    exact noQuote (by rw [(List.cons.inj same).2]; rfl)
  | cons c t =>
    obtain ⟨d, s, start, other⟩ := exists_writeChar_eq_cons c
    rw [List.flatMap_cons, start] at same
    exact other (List.cons.inj same).1

/-! ### Values -/

/-- A string of the text. -/
inductive IsString : Value → Text → Prop
  | intro {span : Span} {text : Text} : IsString (.string span text) text

/-- An array of strings. -/
inductive IsStrings : Value → List Text → Prop
  | intro {span : Span} {items : List Value} {texts : List Text} :
    List.Forall₂ IsString items texts → IsStrings (.array span items) texts

theorem exists_value_writeString (noQuote : rest.head? ≠ some '"') :
    ∃ v, value depth (writeString t ++ rest) = .ok (v, rest) ∧ IsString v t := by
  have text : writeString t ++ rest = '"' :: (t.flatMap writeChar ++ '"' :: rest) := by
    simp [writeString]
  refine ⟨.string (.between (writeString t ++ rest) rest) t, ?_, .intro⟩
  have read := string_writeString (t := t) noQuote
  rw [text] at read ⊢
  rw [value, scalar]
  · simp [read, Except.map]
  all_goals
    intros
    simp_all

/-! ### Arrays -/

theorem items_comma {s start : Text} {before : List Value} {v : Value}
    (lines : skipBlankLines s = .ok start) (read : value depth start = .ok (v, ',' :: rest)) :
    items depth (fuel + 1) before s = items depth fuel (v :: before) rest := by
  have noLine : skipBlankLines (',' :: rest) = .ok (',' :: rest) := rfl
  rw [items]
  simp [lines, read, noLine, Except.map]

theorem items_bracket {s start : Text} {before : List Value} {v : Value}
    (lines : skipBlankLines s = .ok start) (read : value depth start = .ok (v, ']' :: rest)) :
    items depth (fuel + 1) before s = .ok ((v :: before).reverse, ']' :: rest) := by
  have noLine : skipBlankLines (']' :: rest) = .ok (']' :: rest) := rfl
  rw [items]
  simp [lines, read, noLine, Except.map]

theorem items_nil : items depth (fuel + 1) [] (']' :: rest) = .ok ([], ']' :: rest) := by
  have noLine : skipBlankLines (']' :: rest) = .ok (']' :: rest) := rfl
  have noItem : value depth (']' :: rest) = .error (noValue (']' :: rest)) := by
    rw [value, scalar] <;> simp
  rw [items]
  simp [noLine, noItem, noValue, Fault.here, Fault.inside, Fault.orExpected, Except.map]

/-- The strings of an array are read up to its end, after the blanks in front of them. -/
theorem exists_items_writeStrings {s : Text} {before : List Value}
    (lines : skipBlankLines s = .ok (writeStrings (t :: texts) ++ ']' :: rest))
    (room : texts.length < fuel) :
    ∃ found, items depth fuel before s = .ok (before.reverse ++ found, ']' :: rest) ∧
      List.Forall₂ IsString found (t :: texts) := by
  induction texts generalizing t s before fuel with
  | nil =>
    obtain ⟨fuel, rfl⟩ := Nat.exists_eq_add_one.2 (show 0 < fuel by omega)
    obtain ⟨v, read, isString⟩ := @exists_value_writeString t (']' :: rest) depth (by simp)
    refine ⟨[v], ?_, .cons isString .nil⟩
    rw [items_bracket lines read, List.reverse_cons]
  | cons next more ih =>
    obtain ⟨fuel, rfl⟩ := Nat.exists_eq_add_one.2 (show 0 < fuel by omega)
    obtain ⟨v, read, isString⟩ := @exists_value_writeString t
      (',' :: ' ' :: (writeStrings (next :: more) ++ ']' :: rest)) depth (by simp)
    have linesNext : skipBlankLines (' ' :: (writeStrings (next :: more) ++ ']' :: rest)) =
        .ok (writeStrings (next :: more) ++ ']' :: rest) := by
      cases more <;> rfl
    obtain ⟨found, others, areStrings⟩ := @ih next fuel _ (v :: before) linesNext
      (Nat.lt_of_succ_lt_succ room)
    refine ⟨v :: found, ?_, .cons isString areStrings⟩
    rw [writeStrings, List.append_assoc, List.cons_append, List.cons_append] at lines
    rw [items_comma lines read, others, List.reverse_cons, List.append_assoc,
      List.singleton_append]

theorem length_le_length_writeStrings (texts : List Text) :
    texts.length ≤ (writeStrings texts).length := by
  induction texts with
  | nil => exact Nat.le_refl 0
  | cons t more ih =>
    cases more with
    | nil => simp [writeStrings, writeString]
    | cons next more =>
      simp only [writeStrings, List.length_append, List.length_cons] at ih ⊢
      omega

/-- A written array is read back. -/
theorem exists_value_writeStrings (texts : List Text) :
    ∃ v, value (depth + 1) ('[' :: (writeStrings texts ++ ']' :: rest)) = .ok (v, rest) ∧
      IsStrings v texts := by
  obtain ⟨found, read, areStrings⟩ : ∃ found,
      items depth (('[' :: (writeStrings texts ++ ']' :: rest)).length + 1) []
        (writeStrings texts ++ ']' :: rest) = .ok (found, ']' :: rest) ∧
      List.Forall₂ IsString found texts := by
    cases texts with
    | nil => exact ⟨[], items_nil, .nil⟩
    | cons t texts =>
      have lines : skipBlankLines (writeStrings (t :: texts) ++ ']' :: rest) =
          .ok (writeStrings (t :: texts) ++ ']' :: rest) := by
        cases texts <;> rfl
      have short := length_le_length_writeStrings (t :: texts)
      refine exists_items_writeStrings lines ?_
      rw [List.length_cons] at short
      rw [List.length_cons, List.length_append]
      omega
  refine ⟨.array (.between ('[' :: (writeStrings texts ++ ']' :: rest)) rest) found, ?_,
    .intro areStrings⟩
  rw [value, read]
  rfl

/-! ### Lines -/

variable {name : Text} {state next : State} {lists : List (Text × List Text)}

/-- A character of a key is none of those that start something else. -/
theorem ne_of_isBareKeyChar {d : Char} (h : isBareKeyChar c) (other : isBareKeyChar d = false) :
    c ≠ d := by
  rintro rfl
  rw [h] at other
  cases other

theorem skipBlanks_of_isBareKeyChar (h : isBareKeyChar c) : skipBlanks (c :: t) = c :: t := by
  simp [skipBlanks, isBlank, @ne_of_isBareKeyChar c ' ' h rfl, @ne_of_isBareKeyChar c '\t' h rfl]

theorem exists_simpleKey (bare : IsBareKey name) :
    ∃ k, simpleKey (name ++ ' ' :: rest) = .ok (k, ' ' :: rest) ∧ k.name = name := by
  obtain ⟨nonempty, each⟩ := bare
  have whole : (name ++ ' ' :: rest).takeWhile isBareKeyChar = name := by
    rw [List.takeWhile_append_of_pos each, List.takeWhile_cons_of_neg (by decide),
      List.append_nil]
  obtain ⟨c, more, rfl⟩ := List.exists_cons_of_ne_nil nonempty
  have first := each c List.mem_cons_self
  refine ⟨⟨c :: more, .between (c :: more ++ ' ' :: rest) (' ' :: rest)⟩, ?_, rfl⟩
  unfold simpleKey
  split
  · next same => exact absurd (List.cons.inj same).1 (ne_of_isBareKeyChar first rfl)
  · next same => exact absurd (List.cons.inj same).1 (ne_of_isBareKeyChar first rfl)
  · simp only [whole, List.drop_left, List.isEmpty_cons, Bool.false_eq_true, if_false]

/-- A key without quotes, with a blank and a sign behind it. -/
theorem exists_key (bare : IsBareKey name) : ∃ k : Key,
    key (name ++ ' ' :: '=' :: rest) = .ok ([k], '=' :: rest) ∧ k.name = name := by
  obtain ⟨k, read, same⟩ := @exists_simpleKey ('=' :: rest) name bare
  have noBlank : skipBlanks (name ++ ' ' :: '=' :: rest) = name ++ ' ' :: '=' :: rest := by
    obtain ⟨c, more, rfl⟩ := List.exists_cons_of_ne_nil bare.1
    exact skipBlanks_of_isBareKeyChar (bare.2 c List.mem_cons_self)
  have noMore (fuel : Nat) : moreKeys fuel [k] (' ' :: '=' :: rest) = .ok ([k], '=' :: rest) := by
    cases fuel <;> rfl
  refine ⟨k, ?_, same⟩
  rw [key, noBlank, read]
  simp [noMore, depthLimit]

/-- A table that can take keys, as the document itself. -/
structure State.IsRoot (state : State) : Prop where
  path : state.path = []
  dotted : state.info.dotted = false

theorem State.grow_dotted (info : TableInfo) (v : Value) :
    (grow info v).dotted = info.dotted := by
  simp only [grow]
  split <;> rfl

theorem State.IsRoot.exists_put {k : Key} {v : Value} (root : state.IsRoot)
    (new : k.name ∉ names state.entries) : ∃ next, state.put [k] v = .ok next ∧
      next.IsRoot ∧ next.entries = state.entries ++ [(k, v)] := by
  have absent : valueOf? k.name state.entries = none := valueOf?_eq_none_iff.2 new
  refine ⟨{ state with info := grow state.info v, entries := state.entries ++ [(k, v)] }, ?_,
    ⟨root.path, (grow_dotted _ _).trans root.dotted⟩, rfl⟩
  simp [State.put, changeAt, grow_dotted, root.dotted, absent, bind, Except.bind, pure, Except.pure]

/-- An entry that has the list under its name. -/
def HasList (entry : Key × Value) (list : Text × List Text) : Prop :=
  entry.1.name = list.1 ∧ IsStrings entry.2 list.2

/-- The line of a list with a new name, up to the end of the line. -/
theorem State.IsRoot.exists_keyLine {after : Text} (root : state.IsRoot) (bare : IsBareKey name)
    (new : name ∉ names state.entries) (texts : List Text) (ended : lineEnd after = .ok rest) :
    ∃ next entry, keyLine state (writeList name texts ++ after) = .ok (next, rest) ∧
      next.IsRoot ∧ next.entries = state.entries ++ [entry] ∧ HasList entry (name, texts) := by
  have text : writeList name texts ++ after =
      name ++ ' ' :: '=' :: ' ' :: '[' :: (writeStrings texts ++ ']' :: after) := by
    simp [writeList]
  obtain ⟨k, readKey, rfl⟩ := @exists_key
    (' ' :: '[' :: (writeStrings texts ++ ']' :: after)) name bare
  obtain ⟨v, readValue, isStrings⟩ := @exists_value_writeStrings after 78 texts
  obtain ⟨next, put, isRoot, entries⟩ := root.exists_put (v := v) new
  refine ⟨next, (k, v), ?_, isRoot, entries, rfl, isStrings⟩
  have equals (s : Text) : skipEquals ('=' :: s) = .ok s := rfl
  have blank (s : Text) : skipBlanks (' ' :: '[' :: s) = '[' :: s := rfl
  rw [text, keyLine, readKey]
  simp only [equals, blank, depthLimit, readValue, ended, put]

theorem exists_writeList_append (bare : IsBareKey name) (texts : List Text) (after : Text) :
    ∃ c s, writeList name texts ++ after = c :: s ∧ isBareKeyChar c := by
  obtain ⟨c, more, rfl⟩ := List.exists_cons_of_ne_nil bare.1
  exact ⟨c, _, rfl, bare.2 c List.mem_cons_self⟩

/-- What starts with a key is no comment, no line end and no header. -/
theorem lines_of_keyLine {s : Text} (start : isBareKeyChar c)
    (line : keyLine state (c :: s) = .ok (next, rest)) :
    lines (fuel + 1) state (c :: s) = lines fuel next rest := by
  rw [lines.eq_def, skipBlanks_of_isBareKeyChar start]
  simp [@ne_of_isBareKeyChar c '#' start rfl, @ne_of_isBareKeyChar c '\n' start rfl,
    @ne_of_isBareKeyChar c '\r' start rfl, @ne_of_isBareKeyChar c '[' start rfl, line]

/-- A line of a list adds the list. -/
theorem State.IsRoot.exists_lines_writeList {after : Text} (root : state.IsRoot) (fuel : Nat)
    (bare : IsBareKey name) (new : name ∉ names state.entries) (texts : List Text)
    (ended : lineEnd after = .ok rest) : ∃ next entry,
      lines (fuel + 1) state (writeList name texts ++ after) = lines fuel next rest ∧
        next.IsRoot ∧ next.entries = state.entries ++ [entry] ∧ HasList entry (name, texts) := by
  obtain ⟨next, entry, line, isRoot, entries, hasList⟩ := root.exists_keyLine bare new texts ended
  obtain ⟨c, s, text, start⟩ := exists_writeList_append bare texts after
  rw [text] at line ⊢
  exact ⟨next, entry, lines_of_keyLine start line, isRoot, entries, hasList⟩

theorem lines_nil : lines fuel state [] = .ok state := by
  cases fuel <;> rfl

theorem lineEnd_comment (comment : ∀ c ∈ t, isCommentChar c) :
    lineEnd ('#' :: (t ++ '\n' :: rest)) = .ok rest := by
  have skipped : skipComment (skipBlanks ('#' :: (t ++ '\n' :: rest))) = '\n' :: rest := by
    rw [skipBlanks, List.dropWhile_cons_of_neg (by decide), skipComment,
      List.dropWhile_append_of_pos comment, List.dropWhile_cons_of_neg (by decide)]
  rw [lineEnd, skipped]
  rfl

theorem lines_comment (comment : ∀ c ∈ t, isCommentChar c) :
    lines (fuel + 1) state ('#' :: (t ++ '\n' :: rest)) = lines fuel state rest := by
  have noBlank : skipBlanks ('#' :: (t ++ '\n' :: rest)) = '#' :: (t ++ '\n' :: rest) := rfl
  rw [lines.eq_def, noBlank]
  simp [lineEnd_comment comment]

/-- The lines of lists with new names add the lists. -/
theorem State.IsRoot.exists_lines {text : Text} (root : state.IsRoot) (h : IsListing text lists)
    (once : (names state.entries ++ lists.map (·.1)).Nodup) (room : text.length < fuel) :
    ∃ next added, lines fuel state text = .ok next ∧ next.IsRoot ∧
      next.entries = state.entries ++ added ∧ List.Forall₂ HasList added lists := by
  induction h generalizing state fuel with
  | nil => exact ⟨state, [], lines_nil, root, (List.append_nil _).symm, .nil⟩
  | feed _ ih =>
    obtain ⟨fuel, rfl⟩ := Nat.exists_eq_add_one.2 (show 0 < fuel by omega)
    exact ih root once (Nat.lt_of_succ_lt_succ room)
  | comment isComment _ ih =>
    obtain ⟨fuel, rfl⟩ := Nat.exists_eq_add_one.2 (show 0 < fuel by omega)
    rw [lines_comment isComment]
    refine ih root once ?_
    simp only [List.length_cons, List.length_append] at room
    omega
  | @list name rest texts lists bare _ ih =>
    -- The list has a new name, and those behind it have names that are new after it as well
    obtain ⟨fuel, rfl⟩ := Nat.exists_eq_add_one.2 (show 0 < fuel by omega)
    have new : name ∉ names state.entries := fun mem =>
      (List.nodup_append.1 once).2.2 name mem name List.mem_cons_self rfl
    have feed : lineEnd ('\n' :: rest) = .ok rest := rfl
    obtain ⟨middle, entry, line, isRoot, entries, hasList⟩ :=
      root.exists_lines_writeList fuel bare new texts feed
    have onceMore : (names middle.entries ++ lists.map (·.1)).Nodup := by
      have same : entry.1.name = name := hasList.1
      rw [entries, names, List.map_append, List.append_assoc, List.map_singleton, same]
      exact once
    have roomMore : rest.length < fuel := by
      simp only [List.length_cons, List.length_append] at room
      omega
    obtain ⟨last, added, others, isRoot, lastEntries, hasLists⟩ := ih isRoot onceMore roomMore
    refine ⟨last, entry :: added, line.trans others, isRoot, ?_, .cons hasList hasLists⟩
    rw [lastEntries, entries, List.append_assoc, List.singleton_append]
  | @last name texts bare =>
    obtain ⟨fuel, rfl⟩ := Nat.exists_eq_add_one.2 (show 0 < fuel by omega)
    have new : name ∉ names state.entries := fun mem =>
      (List.nodup_append.1 once).2.2 name mem name List.mem_cons_self rfl
    have ended : lineEnd [] = .ok [] := rfl
    obtain ⟨last, entry, line, isRoot, entries, hasList⟩ :=
      root.exists_lines_writeList fuel bare new texts ended
    rw [List.append_nil] at line
    exact ⟨last, [entry], line.trans lines_nil, isRoot, entries, .cons hasList .nil⟩

theorem IsListing.head_ne_mark {text : Text} (h : IsListing text lists) :
    text.head? ≠ some '\uFEFF' := by
  have noMark {name : Text} (bare : IsBareKey name) (texts : List Text) (after : Text) :
      (writeList name texts ++ after).head? ≠ some '\uFEFF' := by
    obtain ⟨c, s, text, start⟩ := exists_writeList_append bare texts after
    rw [text, List.head?_cons, ne_eq, Option.some.injEq]
    exact ne_of_isBareKeyChar start (by decide)
  cases h with
  | nil => nofun
  | feed => simp
  | comment => simp
  | list bare => exact noMark bare _ _
  | last bare => exact List.append_nil (writeList _ _) ▸ noMark bare _ []

/-- **A document of lists is read back.** -/
theorem document_of_isListing {text : Text} (h : IsListing text lists)
    (once : (lists.map (·.1)).Nodup) :
    ∃ entries, document text = .ok entries ∧ List.Forall₂ HasList entries lists := by
  have root : State.IsRoot .initial := ⟨rfl, rfl⟩
  obtain ⟨last, added, read, isRoot, entries, hasLists⟩ := root.exists_lines h once
    (Nat.lt_succ_self _)
  refine ⟨added, ?_, hasLists⟩
  have closed : last.close = .ok added := by
    rw [State.close, isRoot.path]
    exact congrArg Except.ok entries
  simp only [document, h.head_ne_mark, if_false]
  rw [read]
  simp only [closed, Except.mapError]

end PathGlob.Toml
