import Specimen.Proofs.Pattern.Branches
import Specimen.Proofs.Pattern.Building
import Specimen.Proofs.Pattern.Drawing
import Specimen.Proofs.Pattern.Spans
import Specimen.Random.Scripted

/-!
# Drawn texts match the pattern that was written

A text that comes out of a pattern is matched as a whole by the expression that it was
drawn along. The pattern as it was written, with ASCII shorthands, has an expression
too, which differs from that one by an anchor in front of the first branch and an anchor
at the end of the last. Where the whole text is matched, the one stands at its start and
the other at its end, in any modes that may hold there.
-/

namespace Specimen.Pattern

open Draw

/-! ## Sequences and alternatives -/

theorem Regex.asciiAll_append (a b : List Regex) :
    Regex.asciiAll (a ++ b) = Regex.asciiAll a ++ Regex.asciiAll b := by
  induction a with
  | nil => rfl
  | cons r a ih => rw [List.cons_append, asciiAll, asciiAll, ih, List.cons_append]

theorem Regex.ascii_ofParts (parts : List Regex) :
    (Regex.ofParts parts).ascii = Regex.ofParts (Regex.asciiAll parts) := by
  match parts with
  | [] => rfl
  | [_] => rfl
  | _ :: _ :: _ => rfl

theorem Regex.meanings_append {m m' m'' : Modes} {a b : List Regex} {es fs : List Expr}
    (ha : Regex.meanings m a = .ok (es, m')) (hb : Regex.meanings m' b = .ok (fs, m'')) :
    Regex.meanings m (a ++ b) = .ok (es ++ fs, m'') := by
  induction a generalizing m es with
  | nil =>
      cases ha
      exact hb
  | cons r a ih =>
      obtain ⟨e, between, es', he, hes, rfl⟩ := meanings_cons_eq_ok.mp ha
      exact meanings_cons_eq_ok.mpr ⟨e, between, es' ++ fs, he, ih hes, rfl⟩

/-- Parts one after another mean expressions one after another. -/
theorem Regex.meanings_of_ofParts {parts : List Regex} {m m' : Modes} {e : Expr}
    (h : (Regex.ofParts parts).meaning m = .ok (e, m')) :
    ∃ es, Regex.meanings m parts = .ok (es, m')
      ∧ ∀ {text : Array Char} {i j : Nat}, e.Matches text i j ↔ Expr.MatchesAll text es i j := by
  match parts with
  | [] =>
      cases h
      exact ⟨[], rfl, by simp only [Expr.Matches, Expr.MatchesAll, implies_true]⟩
  | [r] =>
      exact ⟨[e], meanings_cons_eq_ok.mpr ⟨e, m', [], h, rfl, rfl⟩,
        Expr.matchesAll_singleton.symm⟩
  | r :: s :: rest =>
      obtain ⟨es, hes, rfl⟩ := meaning_concat_eq_ok.mp h
      exact ⟨es, hes, Expr.matches_ofParts⟩

theorem Regex.meaning_ofParts {parts : List Regex} {m m' : Modes} {es : List Expr}
    (h : Regex.meanings m parts = .ok (es, m')) :
    ∃ e, (Regex.ofParts parts).meaning m = .ok (e, m')
      ∧ ∀ {text : Array Char} {i j : Nat}, e.Matches text i j ↔ Expr.MatchesAll text es i j := by
  match parts with
  | [] =>
      cases h
      exact ⟨.empty, rfl, by simp only [Expr.Matches, Expr.MatchesAll, implies_true]⟩
  | [r] =>
      obtain ⟨e, _, _, he, hnil, rfl⟩ := meanings_cons_eq_ok.mp h
      cases hnil
      exact ⟨e, he, Expr.matchesAll_singleton.symm⟩
  | r :: s :: rest =>
      exact ⟨.ofParts es, meaning_concat_eq_ok.mpr ⟨es, h, rfl⟩, Expr.matches_ofParts⟩

/-! ## Anchors -/

/-- Parts that only look at a place, and are content with it in every text. -/
def StaysAt (place : Array Char → Nat) (m : Modes) (parts : List Regex) : Prop :=
  ∃ es, Regex.meanings m (Regex.asciiAll parts) = .ok (es, m)
    ∧ ∀ text, Expr.MatchesAll text es (place text) (place text)

theorem staysAt_nil (place : Array Char → Nat) (m : Modes) : StaysAt place m [] :=
  ⟨[], rfl, fun _ => by unfold Expr.MatchesAll; rfl⟩

theorem staysAt_lineStart : StaysAt (fun _ => 0) .initial [.assertion .lineStart] :=
  ⟨[.look .textStart], rfl, fun _ => Expr.matchesAll_singleton.mpr (by
    unfold Expr.Matches
    exact ⟨rfl, rfl⟩)⟩

theorem staysAt_lineEnd (m : Modes) : StaysAt Array.size m [.assertion .lineEnd] := by
  refine ⟨[.look (if m.multiLine then .lineEnd m.crlf else .textEnd)], rfl, fun text =>
    Expr.matchesAll_singleton.mpr ?_⟩
  unfold Expr.Matches
  refine ⟨?_, rfl⟩
  split <;> simp [Look.holds]

/-- A pattern has a meaning where the other has one, and matches whatever text the other
matches as a whole. -/
def Covers (m : Modes) (r r' : Regex) : Prop :=
  ∀ e' m', r'.meaning m = .ok (e', m') → ∃ e, r.ascii.meaning m = .ok (e, m')
    ∧ ∀ text, e'.Matches text 0 text.size → e.Matches text 0 text.size

/-- Anchors do not keep a branch from matching a whole text. -/
theorem covers_ofParts {m : Modes} {lead trail parts parts' : List Regex}
    (hlead : StaysAt (fun _ => 0) m lead) (htrail : ∀ m, StaysAt Array.size m trail)
    (h : List.Forall₂ Regex.Reads parts parts') :
    Covers m (.ofParts (lead ++ parts ++ trail)) (.ofParts parts') := by
  intro e' m' he'
  obtain ⟨es, hes, hmatches'⟩ := Regex.meanings_of_ofParts he'
  obtain ⟨before, hbefore, hstart⟩ := hlead
  obtain ⟨after, hafter, hend⟩ := htrail m'
  have hall := Regex.meanings_append
    (Regex.meanings_append hbefore (Regex.Reads.meanings h hes)) hafter
  obtain ⟨e, he, hmatches⟩ := Regex.meaning_ofParts hall
  refine ⟨e, ?_, fun text htext => hmatches.mpr ?_⟩
  · rw [Regex.ascii_ofParts, Regex.asciiAll_append, Regex.asciiAll_append]
    exact he
  · rw [Expr.matchesAll_append]
    refine ⟨text.size, Expr.matchesAll_append.mpr ⟨0, hstart text, hmatches'.mp htext⟩, hend text⟩

theorem covers_meanings {branches branches' : List Regex}
    (h : List.Forall₂ (fun r r' => ∀ m, Covers m r r') branches branches') :
    ∀ {m m' : Modes} {es' : List Expr}, Regex.meanings m branches' = .ok (es', m') →
      ∃ es, Regex.meanings m (Regex.asciiAll branches) = .ok (es, m')
        ∧ ∀ text, Expr.MatchesAny text es' 0 text.size → Expr.MatchesAny text es 0 text.size := by
  induction h with
  | nil =>
      intro m m' es' h
      cases h
      exact ⟨[], rfl, fun _ h => h⟩
  | cons hr _ ih =>
      intro m m' es' h
      obtain ⟨e', between, fs', he', hfs', rfl⟩ := Regex.meanings_cons_eq_ok.mp h
      obtain ⟨e, he, hcovers⟩ := hr m e' between he'
      obtain ⟨fs, hfs, hall⟩ := ih hfs'
      refine ⟨e :: fs, Regex.meanings_cons_eq_ok.mpr ⟨e, between, fs, he, hfs, rfl⟩, fun text => ?_⟩
      unfold Expr.MatchesAny
      exact Or.imp (hcovers text) (hall text)

theorem Regex.Reads.covers {r r' : Regex} (h : r.Reads r') (m : Modes) : Covers m r r' :=
  fun e' _ he' => ⟨e', h m _ he', fun _ htext => htext⟩

/-- Directives reach from one alternative into the next, so only the first of them is
known to be read from the initial modes. -/
theorem covers_alternatives {m : Modes} {first first' : Regex} {rest rest' : List Regex}
    (hfirst : Covers m first first')
    (hrest : List.Forall₂ (fun r r' => ∀ m, Covers m r r') rest rest') :
    Covers m (.alternatives (first :: rest)) (.alternatives (first' :: rest')) := by
  intro e' m' h
  obtain ⟨_, hes', rfl⟩ := Regex.meaning_alternatives_eq_ok.mp h
  obtain ⟨e', between, fs', he', hfs', rfl⟩ := Regex.meanings_cons_eq_ok.mp hes'
  obtain ⟨e, he, hcovers⟩ := hfirst e' between he'
  obtain ⟨fs, hfs, hall⟩ := covers_meanings hrest hfs'
  refine ⟨.ofBranches (e :: fs), ?_, fun text => ?_⟩
  · unfold Regex.ascii Regex.asciiAll
    have hes := Regex.meanings_cons_eq_ok.mpr ⟨e, between, fs, he, hfs, rfl⟩
    exact Regex.meaning_alternatives_eq_ok.mpr ⟨e :: fs, hes, rfl⟩
  · rw [Expr.matches_ofBranches, Expr.matches_ofBranches]
    unfold Expr.MatchesAny
    exact Or.imp (hcovers text) (hall text)

theorem Sides.covers {m : Modes} {lead trail : List Regex} {r r' : Regex}
    (h : Sides lead trail r r') (hlead : StaysAt (fun _ => 0) m lead)
    (htrail : ∀ m, StaysAt Array.size m trail) : Covers m r r' := by
  obtain ⟨h⟩ := h
  cases h with
  | @first parts parts' h =>
      have hcovers := covers_ofParts hlead htrail (List.rel_reverse h)
      simpa [closeBranches] using hcovers
  | @later front front' branches branches' parts parts' hfront hbranches h =>
      have hfirst := covers_ofParts hlead (staysAt_nil Array.size) hfront
      have hlast (m : Modes) := covers_ofParts (staysAt_nil (fun _ => 0) m) htrail
        (List.rel_reverse h)
      rw [List.append_nil] at hfirst
      rw [closeBranches_append, closeBranches_append, List.reverse_append, List.reverse_reverse]
      exact covers_alternatives hfirst (List.rel_append
        ((List.rel_reverse hbranches).imp fun _ _ h => h.covers) (.cons hlast .nil))

/-! ## Whole patterns -/

theorem alternatives_of_parse {text : List Char} {r : Regex} (h : Regex.parse text = .ok r) :
    ∃ cursor, alternatives false false [] [] (text.length + 1) ⟨[], text⟩ = .ok (r, cursor) := by
  obtain ⟨⟨regex, cursor⟩, hregex, h⟩ := ok_of_bind h
  simp only at h
  split at h
  · cases h
  · cases h
    exact ⟨cursor, hregex⟩

/-- The pattern that texts are drawn from is covered by the one that was written, with
its anchors in place. -/
theorem covers_drawnText {text : List Char} {r r' : Regex} (h : Regex.parse text = .ok r)
    (h' : Regex.parse (drawnText text) = .ok r') : Covers .initial r r' := by
  obtain ⟨cursor, hread⟩ := alternatives_of_parse h
  obtain ⟨cursor', hread'⟩ := alternatives_of_parse h'
  have hspelled := spelled_drawnText text
  have hsides : ∃ lead, StaysAt (fun _ => 0) .initial lead
      ∧ ReadAlike false lead (r, cursor) (r', cursor') := by
    by_cases hcaret : ∃ rest, text = '^' :: rest
    · obtain ⟨rest, rfl⟩ := hcaret
      exact ⟨_, staysAt_lineStart, alikeWithin _ hspelled (.first .nil) hread hread'⟩
    · have hdrop : dropStartAnchor text = text := by
        unfold dropStartAnchor
        split
        · exact (hcaret ⟨_, rfl⟩).elim
        · rfl
      rw [hdrop] at hspelled
      exact ⟨[], staysAt_nil _ _, alikeWithin _ hspelled (.first .nil) hread hread'⟩
  obtain ⟨lead, hlead, halike⟩ := hsides
  obtain hsides | ⟨-, hsides⟩ := halike.sides
  · exact hsides.covers hlead (staysAt_nil Array.size)
  · exact hsides.covers hlead staysAt_lineEnd

/-- What makes a pattern usable: the text it is drawn from has a meaning, along which
texts can be drawn. -/
theorem expr_of_parse {source : String} {p : Pattern} (h : Pattern.parse source = .ok p) :
    ∃ regex m, Regex.parse (drawnText source.toList) = .ok regex
      ∧ regex.meaning .initial = .ok (p.expr, m) ∧ p.expr.checkDrawable = .ok () := by
  unfold Pattern.parse at h
  simp only at h
  split at h
  · next expr hread =>
      obtain ⟨e, he, hread⟩ := ok_of_bind hread
      obtain ⟨_, hdrawable, hread⟩ := ok_of_bind hread
      obtain ⟨regex, hregex, he⟩ := ok_of_bind he
      obtain ⟨⟨_, m⟩, hmeaning, he⟩ := ok_of_bind he
      cases hread
      cases he
      cases h
      exact ⟨regex, m, hregex, hmeaning, hdrawable⟩
  · cases h

theorem standsAt_toArray : ∀ (front chars : List Char),
    standsAt (front ++ chars).toArray front.length chars = true
  | _, [] => rfl
  | front, c :: rest => by
      have hrest := standsAt_toArray (front ++ [c]) rest
      rw [List.append_assoc, List.length_append] at hrest
      unfold standsAt
      simpa using hrest

/-- The pattern as it was written has a meaning with ASCII shorthands, and it is found in
every text that the pattern can draw. -/
theorem found_of_canDraw {source : String} {p : Pattern} {regex : Regex}
    (hp : Pattern.parse source = .ok p) (hregex : Regex.parse source.toList = .ok regex) :
    ∃ e m, regex.ascii.meaning .initial = .ok (e, m)
      ∧ ∀ text, p.CanDraw text → e.isFoundIn text.toList = true := by
  obtain ⟨drawn, m, hdrawn, hmeaning, hdrawable⟩ := expr_of_parse hp
  obtain ⟨e, he, hcovers⟩ := covers_drawnText hregex hdrawn p.expr m hmeaning
  refine ⟨e, m, he, ?_⟩
  rintro _ ⟨_, key, chars, _, hchars, rfl⟩
  have hspans : p.expr.Matches chars.toArray 0 chars.toArray.size := by
    have hdraw := (Expr.draw_spans (E := fun _ => True) hdrawable).value hchars
    simpa using hdraw chars.toArray 0 (standsAt_toArray [] chars)
  rw [String.toList_ofList]
  exact Expr.isFoundIn_of_matches (Nat.zero_le _) (hcovers chars.toArray hspans)

/-- Every text that comes out of a pattern, from whatever source, holds a match of the
pattern as it was written, its anchors in place and its digit and word shorthands
standing for ASCII characters. -/
theorem draw_found {σ : Type} [Source σ] {source : String} {p : Pattern} {regex : Regex}
    (hp : Pattern.parse source = .ok p) (hregex : Regex.parse source.toList = .ok regex) :
    ∃ e m, regex.ascii.meaning .initial = .ok (e, m)
      ∧ ∀ (limit : Nat) (s s' : σ) (text : String),
          (p.draw : Draw σ SchemaError String).run limit s = (.ok text, s') →
            e.isFoundIn text.toList = true := by
  obtain ⟨e, m, he, hfound⟩ := found_of_canDraw hp hregex
  exact ⟨e, m, he, fun _ _ _ text hrun => hfound text ((draw_ensures p).value hrun)⟩

/-- A digit at the start of a text or a letter at its end: each anchor belongs to one
branch only. -/
def digitOrLast : Pattern where
  source := "^\\d|b$"
  expr := .alternatives [.charClass ⟨[.between '0' '9']⟩, .text ['b']]

theorem draw_found_digitOrLast :
    ∃ regex e m s', Regex.parse digitOrLast.source.toList = .ok regex
      ∧ regex.ascii.meaning .initial = .ok (e, m)
      ∧ (digitOrLast.draw : Draw Scripted SchemaError String).run 3 ⟨[], 45⟩ = (.ok "4", s')
      ∧ e.isFoundIn "4".toList = true := by
  have hregex : Regex.parse digitOrLast.source.toList
      = .ok (.alternatives [.concat [.assertion .lineStart, .set (.letter false .digit)],
          .concat [.literal ⟨'b', false⟩, .assertion .lineEnd]]) := by rfl
  have hrun : ((digitOrLast.draw : Draw Scripted SchemaError String).run 3 ⟨[], 45⟩).1.toOption
      = some "4" := by decide +kernel
  obtain ⟨e, m, he, hfound⟩ := draw_found (σ := Scripted) (p := digitOrLast) (by rfl) hregex
  exact ⟨_, e, m, _, hregex, he, run_of_toOption hrun, hfound _ _ _ _ (run_of_toOption hrun)⟩

end Specimen.Pattern
