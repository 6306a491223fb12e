import Specimen.Proofs.Pattern.CharClass
import Specimen.Proofs.Pattern.Sets

/-!
# Alternatives in both spellings

A whole pattern is read off both texts by one run of a reader over each. The readers
stay at the same place, so what they have gathered differs only by how sets are spelled
and by the anchors: the one in front, which the text that is drawn from does not have,
is the first part of the first branch (`Gathered`), and the one at the end is the last
part of the last branch (`Sides`).

A repetition sign right behind the anchor in front is read where it was written, as a
repetition of the anchor, but not where texts are drawn from.
-/

namespace Specimen.Pattern

/-! ## Groups -/

section

variable {b : Bool} {s rest : List Char}

theorem opening_python (h : skip b s = '?' :: 'P' :: '<' :: rest) :
    opening b s = (do
      let (name, rest) ← groupName [] rest
      return (.group .capturing (some name), rest)) := by
  unfold opening
  rw [h]
  rfl

theorem opening_named (h : skip b s = '?' :: '<' :: rest)
    (hequal : ∀ tail, rest ≠ '=' :: tail) (hbang : ∀ tail, rest ≠ '!' :: tail) :
    opening b s = (do
      let (name, rest) ← groupName [] rest
      return (.group .capturing (some name), rest)) := by
  unfold opening
  rw [h]
  simp

theorem opening_directive {c : Char} (h : skip b s = '?' :: c :: rest)
    (hc : c ≠ '=' ∧ c ≠ '!' ∧ c ≠ '<' ∧ c ≠ 'P') :
    opening b s = (do
      match ← directive [] false false (c :: rest) with
      | ([], ')' :: _) => .error .repetitionMissing
      | (d, ')' :: rest) => return (.directive d, rest)
      | (d, rest) => return (.group (.directive d) none, rest.drop 1)) := by
  unfold opening
  rw [h]
  have hsecond {d : Char} {tail tail' : List Char} (heq : '?' :: c :: tail = '?' :: d :: tail') :
      c = d := (List.cons.inj (List.cons.inj heq).2).1
  split
  · next heq => exact (hc.1 (hsecond heq)).elim
  · next heq => exact (hc.2.1 (hsecond heq)).elim
  · next heq => exact (hc.2.2.1 (hsecond heq)).elim
  · next heq => exact (hc.2.2.1 (hsecond heq)).elim
  · next heq => exact (hc.2.2.2 (hsecond heq)).elim
  · next heq => exact (hc.2.2.1 (hsecond heq)).elim
  · next heq => cases heq
  · next heq =>
      cases heq
      rfl
  · next hquestion => exact (hquestion _ rfl).elim

theorem opening_capturing (h : ∀ tail, skip b s ≠ '?' :: tail) :
    opening b s = .ok (.group .capturing none, skip b s) := by
  unfold opening
  simp [h]

end

namespace Spelled

variable {s t rest : List Char}

theorem directive : ∀ {s t rest : List Char} {done d : Directive} {negated dangling : Bool},
    Spelled s t → Pattern.directive done negated dangling s = .ok (d, rest) →
    ∃ c left left', (c = ':' ∨ c = ')') ∧ rest = c :: left
      ∧ Pattern.directive done negated dangling t = .ok (d, c :: left') ∧ Spelled left left'
  | [], t, rest, done, d, negated, dangling, h, hs => by cases hs
  | c :: s, t, rest, done, d, negated, dangling, h, hs => by
      unfold Pattern.directive at hs
      split at hs
      · next hend =>
          obtain ⟨t, rfl, htail⟩ := h.cons_left
            (by rcases hend with rfl | rfl <;> decide) (by rcases hend with rfl | rfl <;> decide)
          split at hs
          · cases hs
          · next hdangling =>
              cases hs
              refine ⟨c, s, t, hend, rfl, ?_, htail⟩
              unfold Pattern.directive
              rw [if_pos hend, if_neg hdangling]
      · next hend =>
          split at hs
          · next hhyphen =>
              obtain ⟨t, rfl, htail⟩ := h.cons_left (by rw [hhyphen]; decide)
                (by rw [hhyphen]; decide)
              split at hs
              · cases hs
              · next hnegated =>
                  unfold Pattern.directive
                  rw [if_neg hend, if_pos hhyphen, if_neg hnegated]
                  exact directive htail hs
          · next hhyphen =>
              split at hs
              · cases hs
              · next flag hflag =>
                  obtain ⟨t, rfl, htail⟩ := h.cons_left
                    (fun heq => by rw [heq] at hflag; cases hflag)
                    (fun heq => by rw [heq] at hflag; cases hflag)
                  split at hs
                  · cases hs
                  · next hduplicate =>
                      unfold Pattern.directive
                      rw [if_neg hend, if_neg hhyphen]
                      simp only [hflag]
                      rw [if_neg hduplicate]
                      exact directive htail hs

theorem isNameChar_not (first : Bool) : isNameChar first '\\' = false
    ∧ isNameChar first '$' = false := by
  have hbackslash : Unicode.alphabetic.contains '\\' = false :=
    Unicode.contains_classOf_eq_false (by decide +kernel)
  have hbackslash' : Unicode.numeric.contains '\\' = false :=
    Unicode.contains_classOf_eq_false (by decide +kernel)
  have hdollar : Unicode.alphabetic.contains '$' = false :=
    Unicode.contains_classOf_eq_false (by decide +kernel)
  have hdollar' : Unicode.numeric.contains '$' = false :=
    Unicode.contains_classOf_eq_false (by decide +kernel)
  simp [isNameChar, hbackslash, hbackslash', hdollar, hdollar']

theorem groupName : ∀ {s t rest done name : List Char}, Spelled s t →
    Pattern.groupName done s = .ok (name, rest) →
    ∃ rest', Pattern.groupName done t = .ok (name, rest') ∧ Spelled rest rest'
  | [], t, rest, done, name, h, hs => by cases hs
  | c :: s, t, rest, done, name, h, hs => by
      unfold Pattern.groupName at hs
      split at hs
      · next hend =>
          subst hend
          obtain ⟨t, rfl, htail⟩ := h.cons_left (by decide) (by decide)
          split at hs
          · cases hs
          · next hempty =>
              cases hs
              refine ⟨t, ?_, htail⟩
              unfold Pattern.groupName
              rw [if_pos rfl, if_neg hempty]
      · next hend =>
          split at hs
          · next hname =>
              obtain ⟨t, rfl, htail⟩ := h.cons_left (ne_of_holds hname (isNameChar_not _).1)
                (ne_of_holds hname (isNameChar_not _).2)
              unfold Pattern.groupName
              rw [if_neg hend, if_pos hname]
              exact groupName htail hs
          · cases hs

theorem opening (h : Spelled s t) (b : Bool) {x : Opening}
    (hs : Pattern.opening b s = .ok (x, rest)) :
    ∃ rest', Pattern.opening b t = .ok (x, rest') ∧ Spelled rest rest' := by
  have hskip := h.skip b
  have hname {left left' : List Char} (hleft : Spelled left left')
      (hs : (do
        let (name, rest) ← Pattern.groupName [] left
        return (Opening.group .capturing (some name), rest) : Except Fault (Opening × List Char))
          = .ok (x, rest)) :
      ∃ rest', (do
        let (name, rest) ← Pattern.groupName [] left'
        return (Opening.group .capturing (some name), rest) : Except Fault (Opening × List Char))
          = .ok (x, rest') ∧ Spelled rest rest' := by
    obtain ⟨⟨name, after⟩, hname, hs⟩ := ok_of_bind hs
    obtain ⟨after', hname', hafter⟩ := groupName hleft hname
    cases hs
    rw [hname']
    exact ⟨after', rfl, hafter⟩
  unfold Pattern.opening at hs
  split at hs
  · cases hs
  · cases hs
  · cases hs
  · cases hs
  · next left heq =>
      rw [heq] at hskip
      obtain ⟨t', ht', hleft⟩ := hskip.append_left ['?', 'P', '<'] (by simp)
      rw [opening_python ht']
      exact hname hleft hs
  · next left hequal hbang heq =>
      rw [heq] at hskip
      obtain ⟨t', ht', hleft⟩ := hskip.append_left ['?', '<'] (by simp)
      rw [opening_named ht' (hleft.ne_cons (by decide) (by decide) hequal)
        (hleft.ne_cons (by decide) (by decide) hbang)]
      exact hname hleft hs
  · cases hs
  · next left _ _ _ _ _ _ _ heq =>
      rw [heq] at hskip
      obtain ⟨t', ht', hleft⟩ := hskip.cons_left (by decide) (by decide)
      obtain ⟨⟨d, after⟩, hdirective, hs⟩ := ok_of_bind hs
      obtain ⟨c, after, after', hc, rfl, hdirective', hafter⟩ := hleft.directive hdirective
      -- a directive begins with a character that is the same on both sides
      cases left with
      | nil => cases hdirective
      | cons e left =>
          have hne {f : Char} (hf : ∀ s, Pattern.directive [] false false (f :: s)
              = .error .flagUnrecognized) : e ≠ f := by
            rintro rfl
            rw [hf] at hdirective
            cases hdirective
          obtain ⟨t', rfl, -⟩ := hleft.cons_left (hne fun _ => rfl) (hne fun _ => rfl)
          rw [opening_directive ht' ⟨hne fun _ => rfl, hne fun _ => rfl, hne fun _ => rfl,
            hne fun _ => rfl⟩, hdirective']
          rcases hc with rfl | rfl
          · cases d <;> cases hs <;> exact ⟨_, rfl, hafter⟩
          · cases d with
            | nil => cases hs
            | cons flag d =>
                cases hs
                exact ⟨_, rfl, hafter⟩
  · next hquestion =>
      rw [opening_capturing (hskip.ne_cons (by decide) (by decide) hquestion)]
      cases hs
      exact ⟨_, rfl, hskip⟩

theorem greediness (h : Spelled s t) : (Pattern.greediness s).1 = (Pattern.greediness t).1
    ∧ Spelled (Pattern.greediness s).2 (Pattern.greediness t).2 := by
  unfold Pattern.greediness
  split
  · obtain ⟨t, rfl, htail⟩ := h.cons_left (by decide) (by decide)
    exact ⟨rfl, htail⟩
  · next hs =>
      split
      · obtain ⟨s, rfl, -⟩ := h.cons_right (by decide) (by decide)
        exact (hs s rfl).elim
      · exact ⟨rfl, h⟩

end Spelled

/-! ## What has been gathered -/

/-- The branches and parts that two readers have gathered, in reverse. Where the
pattern was written, the first branch has a number of parts in front of those that are
drawn from. -/
inductive Gathered (lead : List Regex) :
    List Regex → List Regex → List Regex → List Regex → Prop
  | first {parts parts' : List Regex} (h : List.Forall₂ Regex.Reads parts parts') :
      Gathered lead [] (parts ++ lead.reverse) [] parts'
  | later {front front' branches branches' parts parts' : List Regex}
      (hfront : List.Forall₂ Regex.Reads front front')
      (hbranches : List.Forall₂ Regex.Reads branches branches')
      (h : List.Forall₂ Regex.Reads parts parts') :
      Gathered lead (branches ++ [.ofParts (lead ++ front)]) parts
        (branches' ++ [.ofParts front']) parts'

namespace Gathered

variable {lead branches branches' parts parts' : List Regex}

theorem push (h : Gathered lead branches parts branches' parts') {r r' : Regex}
    (hr : r.Reads r') : Gathered lead branches (r :: parts) branches' (r' :: parts') := by
  cases h with
  | first h => exact .first (.cons hr h)
  | later hfront hbranches h => exact .later hfront hbranches (.cons hr h)

theorem branch (h : Gathered lead branches parts branches' parts') :
    Gathered lead (.ofParts parts.reverse :: branches) []
      (.ofParts parts'.reverse :: branches') [] := by
  cases h with
  | @first parts _ h =>
      rw [List.reverse_append, List.reverse_reverse]
      exact .later (List.rel_reverse h) .nil .nil
  | later hfront hbranches h =>
      exact .later hfront (.cons (.ofParts (List.rel_reverse h)) hbranches) .nil

theorem repeatLast (h : Gathered lead branches parts branches' parts') {least : Nat}
    {greatest : Option Nat} {greedy : Bool} {more more' : List Regex}
    (hs : Pattern.repeatLast least greatest greedy parts = .ok more)
    (ht : Pattern.repeatLast least greatest greedy parts' = .ok more') :
    Gathered lead branches more branches' more' := by
  have hlast {r : Regex} {rest more : List Regex}
      (h : Pattern.repeatLast least greatest greedy (r :: rest) = .ok more) :
      more = .repetition least greatest greedy r :: rest := by
    unfold Pattern.repeatLast at h
    split at h
    · cases h
    · cases h
    · cases h
    · next heq =>
        cases heq
        exact (Except.ok.inj h).symm
  cases h with
  | first h =>
      cases h with
      | nil => cases ht
      | cons hr h =>
          rw [hlast hs, hlast ht]
          exact .first (.cons (hr.repetition least greatest greedy) h)
  | later hfront hbranches h =>
      cases h with
      | nil => cases ht
      | cons hr h =>
          rw [hlast hs, hlast ht]
          exact .later hfront hbranches (.cons (hr.repetition least greatest greedy) h)

end Gathered

/-- Two finished patterns, the first with parts in front of its first branch and parts
at the end of its last one. -/
inductive Sides (lead trail : List Regex) : Regex → Regex → Prop
  | mk {branches parts branches' parts' : List Regex}
      (h : Gathered lead branches parts branches' parts') :
      Sides lead trail (closeBranches branches (trail.reverse ++ parts))
        (closeBranches branches' parts')

theorem closeBranches_append (branches : List Regex) (first : Regex) (parts : List Regex) :
    closeBranches (branches ++ [first]) parts
      = .alternatives (first :: (branches.reverse ++ [.ofParts parts.reverse])) := by
  cases branches <;> simp [closeBranches]

/-- Without parts at either side a pattern reads as the other. -/
theorem Sides.reads {r r' : Regex} (h : Sides [] [] r r') : r.Reads r' := by
  obtain ⟨h⟩ := h
  cases h with
  | @first parts parts' h =>
      rw [List.reverse_nil, List.append_nil, List.nil_append]
      exact .ofParts (List.rel_reverse h)
  | @later front front' branches branches' parts parts' hfront hbranches h =>
      rw [closeBranches_append, closeBranches_append]
      exact .alternatives (.cons (.ofParts hfront) (List.rel_append (List.rel_reverse hbranches)
        (.cons (.ofParts (List.rel_reverse h)) .nil)))

/-! ## Whole patterns -/

theorem alternatives_skip (inGroup b : Bool) (branches parts : List Regex) (fuel : Nat)
    (names : List (List Char)) (s : List Char) :
    alternatives inGroup b branches parts fuel ⟨names, skip b s⟩
      = alternatives inGroup b branches parts fuel ⟨names, s⟩ := by
  cases fuel with
  | zero => rfl
  | succ fuel => rw [alternatives, alternatives, skip_skip]

/-- A character that stands for itself. -/
theorem alternatives_literal {inGroup b : Bool} {branches parts : List Regex} {fuel : Nat}
    {names : List (List Char)} {c : Char} {s : List Char} (hskip : skip b (c :: s) = c :: s)
    (hc : c ∉ ['(', '\x7b', '\\', ')', '|', '[', '?', '*', '+', '.', '^', '$']) :
    alternatives inGroup b branches parts (fuel + 1) ⟨names, c :: s⟩
      = alternatives inGroup b branches (.literal ⟨c, false⟩ :: parts) fuel ⟨names, s⟩ := by
  simp only [List.mem_cons, not_or, List.not_mem_nil, not_false_eq_true, and_true] at hc
  rw [alternatives, hskip]
  simp [hc]

/-- What two readers have read up to the end of a group or of the text. -/
structure ReadAlike (inGroup : Bool) (lead : List Regex) (x y : Regex × Cursor) : Prop where
  names : x.2.names = y.2.names
  rest : Spelled x.2.rest y.2.rest
  /-- Only at the end of the text one reader can have met an anchor more. -/
  sides : Sides lead [] x.1 y.1 ∨ inGroup = false ∧ Sides lead [.assertion .lineEnd] x.1 y.1

/-- Whatever a reader with this amount of fuel reads where a pattern was written, a
reader of the text that is drawn from reads alike. -/
def AlikeWithin (fuel : Nat) : Prop :=
  ∀ {fuel' : Nat} {inGroup b : Bool} {lead branches parts branches' parts' : List Regex}
    {names : List (List Char)} {s t : List Char} {x y : Regex × Cursor}, Spelled s t →
    Gathered lead branches parts branches' parts' →
    alternatives inGroup b branches parts fuel ⟨names, s⟩ = .ok x →
    alternatives inGroup b branches' parts' fuel' ⟨names, t⟩ = .ok y →
    ReadAlike inGroup lead x y

section Step

variable {fuel fuel' : Nat} {inGroup b : Bool} {lead branches parts branches' parts' : List Regex}
  {names : List (List Char)} {s t : List Char} {x y : Regex × Cursor}

variable (ih : AlikeWithin fuel) (h : Spelled s t)
  (hgathered : Gathered lead branches parts branches' parts')

include ih h hgathered

theorem AlikeWithin.group
    (hs : alternatives inGroup b branches parts (fuel + 1) ⟨names, '(' :: s⟩ = .ok x)
    (ht : alternatives inGroup b branches' parts' (fuel' + 1) ⟨names, '(' :: t⟩ = .ok y) :
    ReadAlike inGroup lead x y := by
  have hskip (s : List Char) : skip b ('(' :: s) = '(' :: s :=
    skip_cons (by decide +kernel) (by decide) b s
  rw [alternatives, hskip] at hs ht
  simp only at hs ht
  obtain ⟨⟨opened, left⟩, hopening, hs⟩ := ok_of_bind hs
  obtain ⟨⟨opened', left'⟩, hopening', ht⟩ := ok_of_bind ht
  obtain ⟨left'', heq, hleft⟩ := h.opening b hopening
  cases heq.symm.trans hopening'
  cases opened with
  | directive d => exact ih hleft (hgathered.push (.of_ascii rfl)) hs ht
  | group kind name =>
      -- the body, and what follows the group
      have hwhole {names : List (List Char)} {inner : Bool} {body body' : Regex}
          {cursor cursor' : Cursor}
          (hbody : alternatives true inner [] [] fuel ⟨names, left⟩ = .ok (body, cursor))
          (hbody' : alternatives true inner [] [] fuel' ⟨names, left'⟩ = .ok (body', cursor'))
          (hs : alternatives inGroup b branches (.group kind body :: parts) fuel cursor = .ok x)
          (ht : alternatives inGroup b branches' (.group kind body' :: parts') fuel' cursor'
            = .ok y) : ReadAlike inGroup lead x y := by
        obtain ⟨_, _⟩ := cursor
        obtain ⟨_, _⟩ := cursor'
        have hstart : Gathered [] [] [] [] [] := .first .nil
        obtain ⟨rfl, hrest, hsides⟩ := ih hleft hstart hbody hbody'
        have hreads := (hsides.resolve_right fun h => nomatch h.1).reads
        exact ih hrest (hgathered.push (hreads.group kind)) hs ht
      cases name with
      | none =>
          obtain ⟨_, hnames, hs⟩ := ok_of_bind hs
          obtain ⟨_, hnames', ht⟩ := ok_of_bind ht
          cases hnames
          cases hnames'
          obtain ⟨⟨_, _⟩, hbody, hs⟩ := ok_of_bind hs
          obtain ⟨⟨_, _⟩, hbody', ht⟩ := ok_of_bind ht
          exact hwhole hbody hbody' hs ht
      | some name =>
          simp only at hs ht
          split at hs
          · cases hs
          · next hfresh =>
              rw [if_neg hfresh] at ht
              obtain ⟨_, hnames, hs⟩ := ok_of_bind hs
              obtain ⟨_, hnames', ht⟩ := ok_of_bind ht
              cases hnames
              cases hnames'
              obtain ⟨⟨_, _⟩, hbody, hs⟩ := ok_of_bind hs
              obtain ⟨⟨_, _⟩, hbody', ht⟩ := ok_of_bind ht
              exact hwhole hbody hbody' hs ht

theorem AlikeWithin.repeated {least : Nat} {greatest : Option Nat}
    (hs : (do
      alternatives inGroup b branches (← repeatLast least greatest (greediness s).1 parts) fuel
        ⟨names, (greediness s).2⟩) = .ok x)
    (ht : (do
      alternatives inGroup b branches' (← repeatLast least greatest (greediness t).1 parts') fuel'
        ⟨names, (greediness t).2⟩) = .ok y) : ReadAlike inGroup lead x y := by
  obtain ⟨hgreedy, hleft⟩ := h.greediness
  obtain ⟨more, hmore, hs⟩ := ok_of_bind hs
  obtain ⟨more', hmore', ht⟩ := ok_of_bind ht
  rw [← hgreedy] at hmore'
  exact ih hleft (hgathered.repeatLast hmore hmore') hs ht

theorem AlikeWithin.counted
    (hs : alternatives inGroup b branches parts (fuel + 1) ⟨names, '\x7b' :: s⟩ = .ok x)
    (ht : alternatives inGroup b branches' parts' (fuel' + 1) ⟨names, '\x7b' :: t⟩ = .ok y) :
    ReadAlike inGroup lead x y := by
  have hskip (s : List Char) : skip b ('\x7b' :: s) = '\x7b' :: s :=
    skip_cons (by decide +kernel) (by decide) b s
  rw [alternatives, hskip] at hs ht
  simp only at hs ht
  obtain ⟨_, -, hs⟩ := ok_of_bind hs
  obtain ⟨_, -, ht⟩ := ok_of_bind ht
  obtain ⟨⟨least, greatest, greedy, left⟩, hcounted, hs⟩ := ok_of_bind hs
  obtain ⟨⟨least', greatest', greedy', left'⟩, hcounted', ht⟩ := ok_of_bind ht
  obtain ⟨rfl, rfl, rfl, hleft⟩ := h.counted b hcounted hcounted'
  obtain ⟨more, hmore, hs⟩ := ok_of_bind hs
  obtain ⟨more', hmore', ht⟩ := ok_of_bind ht
  exact ih hleft (hgathered.repeatLast hmore hmore') hs ht

end Step

/-- Two readers from the middle of a pattern on, by induction on the fuel of the one
that reads the text as it was written. -/
theorem alikeWithin : ∀ fuel, AlikeWithin fuel := by
  intro fuel
  induction fuel with
  | zero =>
      intro _ _ _ _ _ _ _ _ _ _ _ _ _ _ _ hs _
      cases hs
  | succ fuel ih =>
      intro fuel' inGroup b lead branches parts branches' parts' names s t x y h hgathered hs ht
      cases fuel' with
      | zero => cases ht
      | succ fuel' =>
          rw [← alternatives_skip] at hs ht
          have hskip := h.skip b
          have hskipped := skip_skip b s
          have hskipped' := skip_skip b t
          generalize skip b s = s, skip b t = t at hskip hskipped hskipped' hs ht
          cases hskip with
          | nil =>
              rw [alternatives, hskipped] at hs ht
              simp only at hs ht
              split at hs
              · cases hs
              · next hgroup =>
                  rw [if_neg hgroup] at ht
                  cases hs
                  cases ht
                  exact ⟨rfl, .nil, .inl ⟨hgathered⟩⟩
          | dollar =>
              rw [alternatives, hskipped] at hs
              rw [alternatives, hskipped'] at ht
              simp only at hs ht
              cases fuel with
              | zero => cases hs
              | succ fuel =>
                  rw [alternatives, skip_nil] at hs
                  simp only at hs
                  split at hs
                  · cases hs
                  · next hgroup =>
                      rw [if_neg hgroup] at ht
                      cases hs
                      cases ht
                      exact ⟨rfl, .nil, .inr ⟨Bool.eq_false_iff.mpr hgroup, ⟨hgathered⟩⟩⟩
          | backslash =>
              rw [alternatives, hskipped] at hs
              cases hs
          | @escaped c s t hc h =>
              rw [alternatives, hskipped] at hs
              rw [alternatives, hskipped'] at ht
              obtain ⟨⟨part, left⟩, hpart, hs⟩ := ok_of_bind hs
              obtain ⟨⟨part', left'⟩, hpart', ht⟩ := ok_of_bind ht
              obtain ⟨hsame, hleft⟩ := h.escape hc b hpart hpart'
              exact ih hleft (hgathered.push hsame.reads) hs ht
          | @shorthand c set s t hset h =>
              obtain ⟨_, _, _, _, hshorthand⟩ := shorthand?_read hset
              obtain rfl := hshorthand.text
              rw [alternatives, hskipped] at hs
              rw [alternatives, hskipped'] at ht
              obtain ⟨⟨part, left⟩, hpart, hs⟩ := ok_of_bind hs
              obtain ⟨⟨part', left'⟩, hpart', ht⟩ := ok_of_bind ht
              rw [hshorthand.escape] at hpart
              cases hpart
              cases hshorthand.setFrom _ _ _ _ hpart'
              exact ih h (hgathered.push (.set (.letter hshorthand.ascii?))) hs ht
          | @plain c s t hc h =>
              by_cases hspecial : c ∈ ['(', '\x7b', '\\', ')', '|', '[', '?', '*', '+', '.', '^', '$']
              · simp only [List.mem_cons, List.not_mem_nil, or_false] at hspecial
                obtain rfl | hspecial := hspecial
                · exact ih.group h hgathered hs ht
                obtain rfl | hspecial := hspecial
                · exact ih.counted h hgathered hs ht
                obtain rfl | hspecial := hspecial
                · exact (hc rfl).elim
                rw [alternatives, hskipped] at hs
                rw [alternatives, hskipped'] at ht
                obtain rfl | hspecial := hspecial
                · -- the end of a group
                  simp only at hs ht
                  split at hs
                  · next hgroup =>
                      rw [if_pos hgroup] at ht
                      cases hs
                      cases ht
                      exact ⟨rfl, h, .inl ⟨hgathered⟩⟩
                  · cases hs
                obtain rfl | hspecial := hspecial
                · exact ih h hgathered.branch hs ht
                obtain rfl | hspecial := hspecial
                · obtain ⟨⟨a, left⟩, ha, hs⟩ := ok_of_bind hs
                  obtain ⟨⟨a', left'⟩, ha', ht⟩ := ok_of_bind ht
                  obtain ⟨hreads, hleft⟩ := h.set ha ha'
                  exact ih hleft (hgathered.push (.set hreads)) hs ht
                -- signs that repeat the last part, and parts of one character
                obtain rfl | rfl | rfl | rfl | rfl | rfl := hspecial
                · exact ih.repeated h hgathered hs ht
                · exact ih.repeated h hgathered hs ht
                · exact ih.repeated h hgathered hs ht
                · exact ih h (hgathered.push (.of_ascii rfl)) hs ht
                · exact ih h (hgathered.push (.of_ascii rfl)) hs ht
                · exact ih h (hgathered.push (.of_ascii rfl)) hs ht
              · rw [alternatives_literal hskipped hspecial] at hs
                rw [alternatives_literal hskipped' hspecial] at ht
                exact ih h (hgathered.push (.of_ascii rfl)) hs ht

end Specimen.Pattern
