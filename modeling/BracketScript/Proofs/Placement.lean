import BracketScript.Proofs.SyntaxFaults
import BracketScript.Proofs.Joining
import BracketScript.Proofs.Partition

/-! Whether a source parses does not depend on where its tokens stand. -/

namespace BracketScript

/-- The token without its place. -/
def Token.unplaced : Token → Token
  | .literal _ v => .literal .start v
  | .call _ name args => .call .start name args
  | .punctuation _ mark => .punctuation .start mark

namespace Lexer

theorem unplaced_toToken (p q : Span) (said : Lexeme) :
    (said.toToken p).unplaced = (said.toToken q).unplaced := by
  cases said <;> rfl

theorem unplaced_scan (p q : Span) (s : List Char) :
    (scan p s).map Token.unplaced = (scan q s).map Token.unplaced := by
  cases s with
  | nil => rw [scan, scan]
  | cons c rest =>
    have hlt : (rest.drop (lexeme c rest).2).length < (c :: rest).length := by
      simp only [List.length_drop, List.length_cons]
      omega
    rw [scan_cons, scan_cons, List.map_cons, List.map_cons, unplaced_toToken p q,
      unplaced_scan (p.after _) (q.after _)]
termination_by s.length

theorem unplaced_mergeTexts (ts : List Token) :
    (mergeTexts ts).map Token.unplaced = mergeTexts (ts.map Token.unplaced) := by
  induction ts with
  | nil => rfl
  | cons t ts ih =>
    by_cases ht : t.isText = true
    · obtain ⟨p, s, rfl⟩ := Token.exists_of_isText ht
      rw [List.map_cons, Token.unplaced, mergeTexts, mergeTexts, ← ih]
      rcases mergeTexts ts with _ | ⟨u, us⟩
      · rfl
      cases u with
      | call q name args => rfl
      | punctuation q mark => rfl
      | literal q v => cases v <;> rfl
    · have hf : t.isText = false := Bool.eq_false_iff.mpr ht
      have hu : t.unplaced.isText = false := by
        cases t with
        | call q name args => rfl
        | punctuation q mark => rfl
        | literal q v =>
          cases v with
          | text s => cases hf
          | number n => rfl
          | operator op => rfl
      rw [mergeTexts_of_not_text hf, List.map_cons, List.map_cons, mergeTexts_of_not_text hu, ih]

end Lexer

namespace Pass

/-- Two passes that know the same, places aside. -/
structure Alike (s s' : Pass) : Prop where
  groups : s.groups.length = s'.groups.length
  head : s.head.isSome = s'.head.isSome

theorem Alike.refl (s : Pass) : s.Alike s := ⟨rfl, rfl⟩

theorem Alike.isStray {s s' : Pass} (h : s.Alike s') (mark : Punctuation) :
    s.isStray mark = s'.isStray mark := by
  have hhead := h.head
  have hgroups : s.groups.isEmpty = s'.groups.isEmpty := by
    rw [Bool.eq_iff_iff, List.isEmpty_iff_length_eq_zero, List.isEmpty_iff_length_eq_zero, h.groups]
  cases mark with
  | opening => simp only [Pass.isStray, ← Option.not_isSome, hhead]
  | closing => exact hgroups
  | separator => exact hgroups

theorem Alike.complaint? {s s' : Pass} {t t' : Token} (h : s.Alike s')
    (ht : t.unplaced = t'.unplaced) (strict : Bool) :
    s.complaint? strict t = none ↔ s'.complaint? strict t' = none := by
  cases t <;> cases t' <;> cases ht
  · exact Iff.rfl
  · simp [Pass.complaint?, h.groups]
  · simp [Pass.complaint?, h.isStray]

theorem Alike.step {s s' : Pass} {t t' : Token} (h : s.Alike s')
    (ht : t.unplaced = t'.unplaced) : (s.step t).Alike (s'.step t') := by
  obtain ⟨groups, head⟩ := s
  obtain ⟨groups', head'⟩ := s'
  obtain ⟨hgroups, hhead⟩ := h
  cases t <;> cases t' <;> cases ht
  · exact ⟨hgroups, rfl⟩
  · exact ⟨hgroups, rfl⟩
  · rename_i p mark q
    cases mark with
    | opening =>
      cases head with
      | none =>
        cases head' with
        | none => exact ⟨hgroups, rfl⟩
        | some q => cases hhead
      | some p =>
        cases head' with
        | none => cases hhead
        | some q => exact ⟨congrArg (· + 1) hgroups, rfl⟩
    | closing => exact ⟨by simpa [Pass.step] using congrArg (· - 1) hgroups, rfl⟩
    | separator => exact ⟨hgroups, rfl⟩

theorem Alike.after {s s' : Pass} {ts ts' : List Token} (h : s.Alike s')
    (ht : ts.map Token.unplaced = ts'.map Token.unplaced) (strict : Bool) :
    (s.Accepts strict ts ↔ s'.Accepts strict ts') ∧ (s.after ts).Alike (s'.after ts') := by
  induction ts generalizing s s' ts' with
  | nil =>
    obtain rfl : ts' = [] := by simpa using ht.symm
    exact ⟨by simp, h⟩
  | cons t ts ih =>
    cases ts' with
    | nil => cases ht
    | cons t' ts' =>
      obtain ⟨htt, hts⟩ := List.cons.inj ht
      obtain ⟨hacc, hafter⟩ := ih (h.step htt) hts
      exact ⟨by rw [accepts_cons, accepts_cons, h.complaint? htt, hacc], hafter⟩

theorem accepts_append {strict : Bool} {s : Pass} {ts us : List Token} :
    s.Accepts strict (ts ++ us) ↔ s.Accepts strict ts ∧ (s.after ts).Accepts strict us := by
  induction ts generalizing s with
  | nil => simp
  | cons t ts ih => rw [List.cons_append, accepts_cons, accepts_cons, ih, after_cons, and_assoc]

theorem after_append (s : Pass) (ts us : List Token) : s.after (ts ++ us) = (s.after ts).after us :=
  List.foldl_append

end Pass

theorem Program.read_ok {strict : Bool} {r : Reading} {ts : List Token} {program : Program}
    (h : read strict r ts = .ok program) :
    r.pass.Accepts strict ts ∧ (r.pass.after ts).groups = [] := by
  induction ts generalizing r with
  | nil =>
    refine ⟨Pass.accepts_nil strict r.pass, ?_⟩
    have hf := r.finish_spec
    split at hf
    · obtain ⟨fault, he, -⟩ := hf
      cases he.symm.trans h
    · rename_i hg
      exact hg
  | cons t ts ih =>
    rw [read] at h
    cases hs : r.step strict t with
    | error e =>
      rw [hs] at h
      cases h
    | ok r' =>
      rw [hs] at h
      obtain ⟨hc, hp⟩ := Reading.step_ok hs
      obtain ⟨ha, hg⟩ := ih h
      rw [hp] at ha hg
      exact ⟨Pass.accepts_cons.mpr ⟨hc, ha⟩, hg⟩

theorem parse_ok_iff {strict : Bool} {tokens : List Token} :
    (∃ program, parse strict tokens = .ok program) ↔
      Pass.start.Accepts strict tokens ∧ (Pass.start.after tokens).groups = [] := by
  rw [parse_eq_read]
  constructor
  · rintro ⟨program, h⟩
    exact Program.read_ok h
  · rintro ⟨ha, hg⟩
    have h := Program.read_spec_of_accepts (r := .start) ha
    split at h
    · rename_i p ps hp
      exact absurd (hp.symm.trans hg) (List.cons_ne_nil _ _)
    · exact h

end BracketScript
