import PathGlob.Pattern.Meaning
import PathGlob.Proofs.Pattern.Alternatives
import PathGlob.Proofs.Pattern.Grammar
import PathGlob.Proofs.Sequence.Alignment

/-!
# PathGlob.Proofs.Pattern.Meaning

**The meaning of a pattern can be read off its spelling.** The texts that the spelling of a piece
accepts are those that the fragments written by it accept (`pieceAccepts_iff`), and so a candidate
is accepted by the text of a pattern if and only if its pieces can be divided among the components
that the text writes (`accepts_iff_aligned`).

The spelling reads plain characters one at a time and the grammar as long runs; everything else
corresponds rule by rule. That the grammar writes at most one list of fragments with a piece turns
the accepting reading of a spelling into the reading at hand.
-/

namespace PathGlob.Pattern

variable {piece t : Text} {fragments : List Fragment}

/-! ### One piece -/

theorem WrittenAll.unique {all : List Fragment} (h : WrittenAll piece fragments)
    (h' : WrittenAll piece all) : all = fragments := by
  have read := fragments_eq_nil_iff.2 h'
  rw [fragments_eq_nil_iff.2 h] at read
  exact (Prod.mk.inj read).1.symm

/-- A run of plain characters accepts itself, character by character. -/
theorem pieceAccepts_plain {run rest : Text} (plain : ∀ c ∈ run, isPlain c = true)
    (h : PieceAccepts rest t) : PieceAccepts (run ++ rest) (run ++ t) := by
  induction run with
  | nil => exact h
  | cons c run ih =>
    exact .plain (plain c List.mem_cons_self)
      (ih fun d mem => plain d (List.mem_cons_of_mem c mem))

/-- One more plain character in front joins the run behind it, if there is one. -/
theorem writtenAll_plain_cons {c : Char} (plain : isPlain c = true)
    (written : WrittenAll piece fragments) (accepted : Fragment.AllAccept fragments t) :
    ∃ all, WrittenAll (c :: piece) all ∧ Fragment.AllAccept all (c :: t) := by
  by_cases stops : ∀ d, piece.head? = some d → isPlain d = false
  · -- The character is a run of its own.
    have first : Written ([c] ++ piece) (.literal [c]) piece :=
      .plain [c] piece (by simp) (by simpa using plain) stops
    exact ⟨_, .cons first written, .cons (.literal [c]) accepted⟩
  · simp only [not_forall, Bool.not_eq_false] at stops
    -- The first fragment is a run, and it grows by the character.
    obtain ⟨d, head, plainHead⟩ := stops
    obtain ⟨tail, rfl⟩ := List.head?_eq_some_iff.1 head
    cases written with
    | cons first rest =>
      have read := fragment?_eq_some_iff.2 first
      rw [fragment?_plain plainHead] at read
      cases read
      cases accepted with
      | cons here after =>
        cases here with
        | literal =>
          refine ⟨.literal (c :: d :: tail.takeWhile isPlain) :: _, .cons ?_ rest,
            .cons (.literal _) after⟩
          apply fragment?_eq_some_iff.1
          rw [fragment?_plain plain, List.takeWhile_cons_of_pos plainHead,
            List.dropWhile_cons_of_pos plainHead]

/-- Whatever a spelling accepts is accepted by fragments that are written so. -/
theorem exists_writtenAll (h : PieceAccepts piece t) :
    ∃ all, WrittenAll piece all ∧ Fragment.AllAccept all t := by
  induction h with
  | nil => exact ⟨[], .nil, .nil⟩
  | escaped c _ ih =>
    obtain ⟨all, written, accepted⟩ := ih
    exact ⟨_, .cons (.escaped c _) written, .cons (.literal [c]) accepted⟩
  | trailing => exact ⟨_, .cons .trailing .nil, .cons (.literal ['\\']) .nil⟩
  | anyChar c _ ih =>
    obtain ⟨all, written, accepted⟩ := ih
    exact ⟨_, .cons (.anyChar _) written, .cons (.anyChar c) accepted⟩
  | anyText s _ ih =>
    obtain ⟨all, written, accepted⟩ := ih
    exact ⟨_, .cons (.anyText _) written, .cons (.anyText s) accepted⟩
  | @group items item rest _ isGroup mem _ ih =>
    obtain ⟨all, written, accepted⟩ := ih
    exact ⟨_, .cons (.group items rest isGroup) written,
      .cons (.member (Alternatives.mem_ofList.2 mem)) accepted⟩
  | @negatedClass contents rest _ c isContents none _ ih =>
    obtain ⟨all, written, accepted⟩ := ih
    exact ⟨_, .cons (.negatedClass contents rest isContents) written,
      .cons (.negatedClass none) accepted⟩
  | @charClass contents rest _ c isContents noSign mem _ ih =>
    obtain ⟨all, written, accepted⟩ := ih
    exact ⟨_, .cons (.charClass contents rest isContents noSign) written,
      .cons (.charClass mem) accepted⟩
  | plain plain _ ih =>
    obtain ⟨all, written, accepted⟩ := ih
    exact writtenAll_plain_cons plain written accepted

/-- A written fragment in front of an accepting rest accepts by its spelling. -/
theorem pieceAccepts_of_written {f : Fragment} {rest u v : Text} (written : Written piece f rest)
    (accepted : f.Accepts u) (after : PieceAccepts rest v) : PieceAccepts piece (u ++ v) := by
  cases written with
  | escaped c =>
    cases accepted
    exact .escaped c after
  | trailing =>
    cases accepted
    cases after
    exact .trailing
  | anyChar =>
    cases accepted with
    | anyChar c => exact .anyChar c after
  | anyText =>
    cases accepted
    exact .anyText u after
  | group items _ isGroup =>
    cases accepted with
    | member mem => exact .group isGroup (Alternatives.mem_ofList.1 mem) after
    | noMember none =>
      -- A group that can be written has a member.
      exact absurd none (Alternatives.members_ofList_ne_nil isGroup.1)
  | negatedClass contents _ isContents =>
    cases accepted with
    | negatedClass none => exact .negatedClass isContents none after
  | charClass contents _ isContents noSign =>
    cases accepted with
    | charClass mem => exact .charClass isContents noSign mem after
  | plain run _ ne plain _ =>
    cases accepted
    exact pieceAccepts_plain plain after

theorem pieceAccepts_of_allAccept (written : WrittenAll piece fragments)
    (accepted : Fragment.AllAccept fragments t) : PieceAccepts piece t := by
  induction written generalizing t with
  | nil =>
    cases accepted
    exact .nil
  | cons first _ ih =>
    cases accepted with
    | cons here after => exact pieceAccepts_of_written first here (ih after)

/-- The spelling of a piece accepts what the fragments written by it accept. -/
theorem pieceAccepts_iff (written : WrittenAll piece fragments) (t : Text) :
    PieceAccepts piece t ↔ Fragment.AllAccept fragments t := by
  constructor
  · intro h
    obtain ⟨all, writtenAll, accepted⟩ := exists_writtenAll h
    exact written.unique writtenAll ▸ accepted
  · exact pieceAccepts_of_allAccept written

/-! ### Whole patterns -/

theorem pieceComponent_eq_doubleStar : pieceComponent piece = .doubleStar ↔ piece = ['*', '*'] := by
  unfold pieceComponent
  split
  · next h => simp [h]
  · next h => simp [h]

/-- The pieces of a text stand for components of the same shape as those that they write. -/
theorem corresponds_of_written {pieces : List Text} {pattern : Pattern}
    (h : WrittenPieces pieces pattern) :
    List.Forall₂ (Sequence.Corresponds WrittenAll) (pieces.map pieceComponent) pattern := by
  induction h with
  | nil => exact .nil
  | cons written _ ih =>
    refine .cons ?_ ih
    cases written with
    | doubleStar => exact .doubleStar
    | segment ne writtenAll =>
      rw [pieceComponent, if_neg ne]
      exact .segment writtenAll

/-- A pattern ends in a double star if and only if the last piece of its text is `**`. -/
theorem WrittenPattern.getLast?_eq_doubleStar {text : Text} {pattern : Pattern}
    (h : WrittenPattern text pattern) :
    (Text.pieces separator text).getLast? = some ['*', '*'] ↔
      pattern.getLast? = some .doubleStar := by
  rw [← Sequence.getLast?_eq_doubleStar_congr (corresponds_of_written h), List.getLast?_map,
    Option.map_eq_some_iff]
  simp only [pieceComponent_eq_doubleStar]
  simp

/-- The text of a pattern accepts the candidates whose pieces can be divided among the components
that the text writes, unless these end in a double star. -/
theorem accepts_iff_aligned {text candidate : Text} {pattern : Pattern}
    (h : WrittenPattern text pattern) :
    Accepts text candidate ↔
      pattern.getLast? ≠ some .doubleStar ∧
        Sequence.Aligned Fragment.AllAccept pattern (Text.pieces separator candidate) := by
  have shapes := corresponds_of_written h
  have alike : Sequence.Aligned PieceAccepts
      ((Text.pieces separator text).map pieceComponent) (Text.pieces separator candidate) ↔
      Sequence.Aligned Fragment.AllAccept pattern (Text.pieces separator candidate) :=
    Sequence.aligned_congr (fun _ _ written t => pieceAccepts_iff written t) shapes
  rw [Accepts, ne_eq, h.getLast?_eq_doubleStar, alike]

end PathGlob.Pattern
