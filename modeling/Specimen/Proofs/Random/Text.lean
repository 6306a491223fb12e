import Specimen.Proofs.Random.Pick
import Specimen.Random.Text

/-!
# Lorem text has the length it was asked for

A word is one of the lorem words and none of these is empty, so no chunk is
empty. Text starts with its first chunk and is cut only at the limit; it is
therefore empty for a limit of zero and for no other (`text_ensures`).
-/

namespace Specimen.Draw

variable {σ ε : Type} [Source σ] {E : ε → Prop}

theorem loremWords_ne_empty : ∀ word ∈ loremWords, word ≠ "" := by decide +kernel

/-! ## Chunks -/

theorem word_ensures : Ensures (word : Draw σ ε String) (· ∈ loremWords) E := by
  refine (element_ensures loremWords).bind fun word? h => ensures_pure ?_
  rcases h with ⟨hnil, -⟩ | ⟨word, hmem, rfl⟩
  · cases hnil
  · exact hmem

theorem sentence_ensures : Ensures (sentence : Draw σ ε String) (· ≠ "") E := by
  refine (countBetween_ensures 3 9).bind fun count _ => ?_
  refine (ensures_times word_ensures count).bind fun words _ => ensures_pure fun h => ?_
  have hlen := congrArg String.length h
  simp [String.length_append] at hlen

theorem chunk_ensures (limit : Nat) : Ensures (chunk limit : Draw σ ε String) (· ≠ "") E := by
  unfold chunk
  split
  · exact word_ensures.imp_value loremWords_ne_empty
  · exact sentence_ensures

/-! ## Texts -/

/-- Extending a text leaves what is there. -/
theorem extendText_ensures (limit : Nat) :
    ∀ (rounds : Nat) (text : List Char),
      Ensures (extendText limit text rounds : Draw σ ε (List Char)) (text <+: ·) E
  | 0, text => ensures_pure (List.prefix_refl text)
  | rounds + 1, text => by
      unfold extendText
      split
      · exact ensures_pure (List.prefix_refl text)
      · refine (chunk_ensures limit).bind fun next _ => ?_
        dsimp only
        split
        · exact ensures_pure (List.prefix_refl text)
        · split
          · exact ensures_pure (List.prefix_append ..)
          · exact (extendText_ensures limit rounds _).imp_value fun out hout =>
              (List.prefix_append ..).trans hout

theorem text_ensures (limit : Nat) :
    Ensures (text limit : Draw σ ε String)
      (fun s => s.length ≤ limit ∧ (0 < limit → 0 < s.length)) E := by
  unfold text
  split
  · next h => exact ensures_pure ⟨Nat.zero_le _, fun hpos => by omega⟩
  · refine (chunk_ensures limit).bind fun first hfirst => ?_
    refine (extendText_ensures limit limit first.toList).bind fun whole hwhole => ensures_pure ?_
    rw [String.length_ofList, List.length_take]
    have hpos : 0 < first.toList.length := by
      refine List.length_pos_iff.mpr fun hnil => hfirst ?_
      exact String.toList_eq_nil_iff.mp hnil
    have hle := hwhole.length_le
    omega

/-! ## Steadiness -/

theorem steady_word : Steady (word : Draw σ ε String) :=
  (steady_element _).bind fun _ => steady_pure _

theorem steady_sentence : Steady (sentence : Draw σ ε String) :=
  (steady_countBetween 3 9).bind fun count =>
    (steady_times steady_word count).bind fun _ => steady_pure _

theorem steady_chunk (limit : Nat) : Steady (chunk limit : Draw σ ε String) := by
  unfold chunk
  split
  · exact steady_word
  · exact steady_sentence

theorem steady_extendText (limit : Nat) :
    ∀ (rounds : Nat) (text : List Char),
      Steady (extendText limit text rounds : Draw σ ε (List Char))
  | 0, text => steady_pure text
  | rounds + 1, text => by
      unfold extendText
      split
      · exact steady_pure text
      · refine (steady_chunk limit).bind fun next => ?_
        dsimp only
        split
        · exact steady_pure text
        · split
          · exact steady_pure _
          · exact steady_extendText limit rounds _

theorem steady_text (limit : Nat) : Steady (text limit : Draw σ ε String) := by
  unfold text
  split
  · exact steady_pure ""
  · exact (steady_chunk limit).bind fun _ =>
      (steady_extendText limit limit _).bind fun _ => steady_pure _

end Specimen.Draw
