import Specimen.Proofs.Random.Text
import Specimen.Random.Scripted

/-!
# Lorem text is made of whole chunks

The chunks of a text are drawn one after another, as `times` draws them, and what the text is
follows from them alone (`IsText`): the first chunk, cut if it alone is too long, or whole chunks
joined by blanks, which go on until the text is as long as it may be or the next chunk does not
fit.

The loop that appends them never stops for want of rounds. It starts with a text of whole chunks
and with rounds enough to bring it to its limit one character at a time, and each round adds a
blank and a chunk that is not empty (`extendText_run`). So a text is drawn unless one of its
chunks is not (`text_isText`).
-/

namespace Specimen.Draw

variable {σ ε α : Type}

/-! ## Draws in a row -/

section Times

variable {x : Draw σ ε α} {limit count : Nat} {s s₁ s₂ : σ} {a : α} {as : List α} {stop : Stop ε}

theorem run_times_cons (hfirst : x.run limit s = (.ok a, s₁))
    (hrest : (times count x).run limit s₁ = (.ok as, s₂)) :
    (times (count + 1) x).run limit s = (.ok (a :: as), s₂) := by
  show (x >>= fun a => times count x >>= fun as => pure (a :: as)).run limit s = _
  rw [run_bind_of_ok hfirst, run_bind_of_ok hrest, run_pure]

theorem run_times_first (hfirst : x.run limit s = (.error stop, s₁)) :
    (times (count + 1) x).run limit s = (.error stop, s₁) :=
  run_bind_of_error hfirst

theorem run_times_later (hfirst : x.run limit s = (.ok a, s₁))
    (hrest : (times count x).run limit s₁ = (.error stop, s₂)) :
    (times (count + 1) x).run limit s = (.error stop, s₂) := by
  show (x >>= fun a => times count x >>= fun as => pure (a :: as)).run limit s = _
  rw [run_bind_of_ok hfirst, run_bind_of_error hrest]

end Times

/-! ## Joined chunks -/

/-- Chunks joined by single blanks. -/
def joined (chunks : List String) : String := String.intercalate " " chunks

/-- What is drawn as a text of at most `most` characters when the chunks that are drawn for it are
given, in their order. -/
inductive IsText (most : Nat) : List String → String → Prop
  /-- The first chunk alone is too long. -/
  | cut {chunk : String} (h : most < chunk.length) : IsText most [chunk] (truncate chunk most)
  /-- All chunks together are as long as they may be. -/
  | full {chunks : List String} (hsome : chunks ≠ []) (h : (joined chunks).length = most) :
      IsText most chunks (joined chunks)
  /-- All chunks but the last fit, and with the last they would be too long. -/
  | stopped {chunks : List String} {next : String} (hsome : chunks ≠ [])
      (hfits : (joined chunks).length < most)
      (hnext : most < (joined (chunks ++ [next])).length) :
      IsText most (chunks ++ [next]) (joined chunks)

theorem joined_singleton (chunk : String) : joined [chunk] = chunk :=
  String.intercalate_singleton

theorem toList_joined_append {chunks : List String} (hsome : chunks ≠ []) (next : String) :
    (joined (chunks ++ [next])).toList = (joined chunks).toList ++ ' ' :: next.toList := by
  unfold joined
  rw [String.intercalate_append_of_ne_nil hsome (List.cons_ne_nil _ _),
    String.intercalate_singleton, String.toList_append, String.toList_append, List.append_assoc]
  rfl

theorem length_joined_append {chunks : List String} (hsome : chunks ≠ []) (next : String) :
    (joined (chunks ++ [next])).length = (joined chunks).length + 1 + next.length := by
  rw [← String.length_toList, toList_joined_append hsome, List.length_append, List.length_cons,
    String.length_toList, String.length_toList]
  omega

variable [Source σ]

/-! ## Texts -/

/-- A chunk is drawn and is not empty, or its draw does not end. -/
theorem chunk_run (most limit : Nat) (src : σ) :
    (∃ chunk rest, (Draw.chunk most : Draw σ ε String).run limit src = (.ok chunk, rest)
        ∧ 0 < chunk.length)
      ∨ ∃ rest, (Draw.chunk most : Draw σ ε String).run limit src = (.error .endless, rest) := by
  have hensures : Ensures (Draw.chunk most : Draw σ ε String) (· ≠ "") fun _ => False :=
    chunk_ensures most
  rcases hrun : (Draw.chunk most : Draw σ ε String).run limit src with ⟨stop | chunk, rest⟩
  · cases stop with
    | failed e => exact (hensures.failure hrun).elim
    | endless => exact .inr ⟨rest, rfl⟩
  · refine .inl ⟨chunk, rest, rfl, Nat.pos_of_ne_zero fun hzero => hensures.value hrun ?_⟩
    exact String.length_eq_zero_iff.mp hzero

theorem extendText_of_le {most : Nat} {text : List Char} (h : most ≤ text.length) (rounds : Nat) :
    (extendText most text rounds : Draw σ ε (List Char)) = pure text := by
  cases rounds with
  | zero => rfl
  | succ rounds =>
      unfold extendText
      rw [if_pos h]

/-- A round draws a chunk, and adds it after a blank unless that makes the text too long. -/
theorem extendText_round {most limit : Nat} {chunks : List String} {next : String} {src src₁ : σ}
    (hsome : chunks ≠ []) (hroom : (joined chunks).length < most)
    (hnext : (Draw.chunk most : Draw σ ε String).run limit src = (.ok next, src₁))
    (hpos : 0 < next.length) (rounds : Nat) :
    (extendText most (joined chunks).toList (rounds + 1) : Draw σ ε (List Char)).run limit src
      = if most < (joined (chunks ++ [next])).length then (.ok (joined chunks).toList, src₁)
        else (extendText most (joined (chunks ++ [next])).toList rounds).run limit src₁ := by
  have hsome' : ¬ next.toList.isEmpty = true := by
    rw [List.isEmpty_iff_length_eq_zero, String.length_toList]
    omega
  conv_lhs => unfold extendText
  rw [String.length_toList, if_neg (Nat.not_le.mpr hroom), run_bind_of_ok hnext]
  dsimp only
  rw [← toList_joined_append hsome, String.length_toList, if_neg hsome']
  split <;> rfl

/-- Chunks are added to a text of whole chunks. Each round brings the text closer to its limit, so
with rounds for every character that is left they do not run out. -/
theorem extendText_run (limit : Nat) {most : Nat} :
    ∀ (rounds : Nat) (chunks : List String) (src : σ), chunks ≠ [] →
    (joined chunks).length ≤ most → most ≤ (joined chunks).length + rounds →
    (∃ more s rest, (times more.length (chunk most) : Draw σ ε (List String)).run limit src
          = (.ok more, rest)
        ∧ (extendText most (joined chunks).toList rounds : Draw σ ε (List Char)).run limit src
          = (.ok s.toList, rest)
        ∧ (joined chunks).length + more.length ≤ most ∧ s.length ≤ most
        ∧ IsText most (chunks ++ more) s)
      ∨ ∃ count rest, (joined chunks).length + count ≤ most
        ∧ (times count (chunk most) : Draw σ ε (List String)).run limit src
          = (.error .endless, rest)
        ∧ (extendText most (joined chunks).toList rounds : Draw σ ε (List Char)).run limit src
          = (.error .endless, rest) := by
  have hdone (rounds : Nat) (src : σ) {chunks : List String} (hsome : chunks ≠ [])
      (hfull : (joined chunks).length = most) :
      (extendText most (joined chunks).toList rounds : Draw σ ε (List Char)).run limit src
          = (.ok (joined chunks).toList, src)
        ∧ IsText most (chunks ++ []) (joined chunks) := by
    rw [extendText_of_le (by rw [String.length_toList, hfull]), List.append_nil]
    exact ⟨rfl, .full hsome hfull⟩
  intro rounds
  induction rounds with
  | zero =>
      intro chunks src hsome hfits henough
      obtain ⟨hrun, htext⟩ := hdone 0 src hsome (by omega)
      exact .inl ⟨[], joined chunks, src, rfl, hrun, hfits, hfits, htext⟩
  | succ rounds ih =>
      intro chunks src hsome hfits henough
      rcases Nat.eq_or_lt_of_le hfits with hfull | hroom
      · obtain ⟨hrun, htext⟩ := hdone (rounds + 1) src hsome hfull
        exact .inl ⟨[], joined chunks, src, rfl, hrun, hfits, hfits, htext⟩
      rcases chunk_run (ε := ε) most limit src with ⟨next, src₁, hnext, hpos⟩ | ⟨rest, hendless⟩
      · have hround := extendText_round hsome hroom hnext hpos rounds
        have hlonger : (joined (chunks ++ [next])).length
            = (joined chunks).length + 1 + next.length := length_joined_append hsome next
        by_cases hstop : most < (joined (chunks ++ [next])).length
        · rw [if_pos hstop] at hround
          exact .inl ⟨[next], joined chunks, src₁, run_times_cons hnext rfl, hround, hroom, hfits,
            .stopped hsome hroom hstop⟩
        rw [if_neg hstop] at hround
        rw [hround]
        rcases ih (chunks ++ [next]) src₁ (by simp) (Nat.le_of_not_lt hstop) (by omega) with
          ⟨more, s, rest, hmore, hrun, hcount, hlength, htext⟩ | ⟨count, rest, hcount, hchunk, hrun⟩
        · rw [List.append_assoc, List.singleton_append] at htext
          exact .inl ⟨next :: more, s, rest, run_times_cons hnext hmore, hrun,
            by rw [List.length_cons]; omega, hlength, htext⟩
        · exact .inr ⟨count + 1, rest, by omega, run_times_later hnext hchunk, hrun⟩
      · refine .inr ⟨1, rest, hroom, run_times_first hendless, ?_⟩
        unfold extendText
        rw [String.length_toList, if_neg (Nat.not_le.mpr hroom)]
        exact run_bind_of_error hendless

theorem text_eq {most : Nat} (hmost : 0 < most) :
    (text most : Draw σ ε String) = chunk most >>= fun first =>
      extendText most first.toList most >>= fun whole => pure (.ofList (whole.take most)) := by
  unfold text
  rw [if_neg hmost.ne']

/-- A first chunk that is too long is the text, once it is cut. -/
theorem text_run_of_lt {most limit : Nat} {first : String} {src src₁ : σ} (hmost : 0 < most)
    (hfirst : (chunk most : Draw σ ε String).run limit src = (.ok first, src₁))
    (hlong : most < first.length) :
    (text most : Draw σ ε String).run limit src = (.ok (truncate first most), src₁) := by
  rw [text_eq hmost, run_bind_of_ok hfirst,
    extendText_of_le (by rw [String.length_toList]; exact hlong.le)]
  rfl

/-- A text that has been put together is not cut any more. -/
theorem text_run_of_extendText {most limit : Nat} {first s : String} {src src₁ rest : σ}
    (hmost : 0 < most) (hfirst : (chunk most : Draw σ ε String).run limit src = (.ok first, src₁))
    (hextend : (extendText most first.toList most : Draw σ ε (List Char)).run limit src₁
      = (.ok s.toList, rest)) (hlength : s.length ≤ most) :
    (text most : Draw σ ε String).run limit src = (.ok s, rest) := by
  rw [text_eq hmost, run_bind_of_ok hfirst, run_bind_of_ok hextend,
    List.take_of_length_le (by rwa [String.length_toList]), String.ofList_toList]
  rfl

/-- A text of at most `most` characters is drawn, and is made of the chunks that are drawn for it,
at most `most` of them, unless the draw of one of these does not end. -/
theorem text_isText (most limit : Nat) (src : σ) :
    most = 0 ∧ (text most : Draw σ ε String).run limit src = (.ok "", src)
      ∨ 0 < most ∧
        ((∃ drawn s rest, (times drawn.length (chunk most) : Draw σ ε (List String)).run limit src
              = (.ok drawn, rest)
            ∧ (text most : Draw σ ε String).run limit src = (.ok s, rest)
            ∧ drawn.length ≤ most ∧ IsText most drawn s ∧ 0 < s.length ∧ s.length ≤ most)
          ∨ ∃ count rest, count ≤ most
            ∧ (times count (chunk most) : Draw σ ε (List String)).run limit src
              = (.error .endless, rest)
            ∧ (text most : Draw σ ε String).run limit src = (.error .endless, rest)) := by
  rcases Nat.eq_zero_or_pos most with rfl | hmost
  · exact .inl ⟨rfl, rfl⟩
  have hbounds : Ensures (text most : Draw σ ε String)
      (fun s => s.length ≤ most ∧ (0 < most → 0 < s.length)) fun _ => True := text_ensures most
  refine .inr ⟨hmost, ?_⟩
  rcases chunk_run (ε := ε) most limit src with ⟨first, src₁, hfirst, hpos⟩ | ⟨rest, hendless⟩
  · rcases Nat.lt_or_ge most first.length with hlong | hshort
    · have hrun := text_run_of_lt hmost hfirst hlong
      obtain ⟨hle, hsome⟩ := hbounds.value hrun
      exact .inl ⟨[first], _, src₁, run_times_cons hfirst rfl, hrun, hmost, .cut hlong,
        hsome hmost, hle⟩
    · have hloop := extendText_run (ε := ε) limit most [first] src₁
        (List.cons_ne_nil _ _) (joined_singleton first ▸ hshort) (Nat.le_add_left ..)
      rw [joined_singleton] at hloop
      rcases hloop with
        ⟨more, s, rest, hmore, hextend, hcount, hlength, hmade⟩ |
          ⟨count, rest, hcount, hchunk, hextend⟩
      · have hrun := text_run_of_extendText hmost hfirst hextend hlength
        obtain ⟨hle, hsome⟩ := hbounds.value hrun
        exact .inl ⟨first :: more, s, rest, run_times_cons hfirst hmore, hrun,
          by rw [List.length_cons]; omega, hmade, hsome hmost, hle⟩
      · refine .inr ⟨count + 1, rest, by omega, run_times_later hfirst hchunk, ?_⟩
        rw [text_eq hmost, run_bind_of_ok hfirst, run_bind_of_error hextend]
  · refine .inr ⟨1, rest, hmost, run_times_first hendless, ?_⟩
    rw [text_eq hmost, run_bind_of_error hendless]

/-- The fourth word, `repellat`, does not fit. -/
example : ((text 12 : Draw Scripted Empty String).run 1 ⟨[], 2⟩).1.toOption
    = some "aut quae et" := by decide +kernel

end Specimen.Draw
