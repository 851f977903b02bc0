import Mathlib
import BracketScript.Token.Lexer

/-! Texts that follow one another are joined, from left to right. Joining tokens that are not both
texts would be a defect, and is never tried. -/

namespace BracketScript

def Token.isText : Token → Bool
  | .literal _ (.text _) => true
  | _ => false

theorem Token.exists_of_isText {t : Token} (h : t.isText = true) :
    ∃ p s, t = .literal p (.text s) := by
  cases t with
  | call p name args => cases h
  | punctuation p mark => cases h
  | literal p v =>
    cases v with
    | text s => exact ⟨p, s, rfl⟩
    | number n => cases h
    | operator op => cases h

def Token.join : Token → Token → Except Defect Token
  | .literal p (.text s), .literal _ (.text s') => .ok (.text p (s ++ s'))
  | t, u => .error (.unmergeable t.kind u.kind)

namespace Lexer

/-- A token after those that have been joined so far, the last of them first. -/
def joinNext (joined : List Token) (t : Token) : Except Defect (List Token) :=
  match joined with
  | [] => .ok [t]
  | u :: us =>
    if u.isText && t.isText then (u.join t).map (· :: us) else .ok (t :: u :: us)

def joinAll (ts : List Token) : Except Defect (List Token) :=
  (ts.foldlM joinNext []).map List.reverse

theorem mergeTexts_text_text (p q : Span) (s s' : String) (ts : List Token) :
    mergeTexts (.literal p (.text s) :: .literal q (.text s') :: ts) =
      mergeTexts (.literal p (.text (s ++ s')) :: ts) := by
  simp only [mergeTexts, Token.text]
  rcases mergeTexts ts with _ | ⟨t, us⟩
  · rfl
  cases t with
  | call r name args => rfl
  | punctuation r mark => rfl
  | literal r v =>
    cases v with
    | text s'' => simp only [String.append_assoc]
    | number n => rfl
    | operator op => rfl

/-- What holds of every text is not lost by joining. -/
theorem forall_mergeTexts {P : Token → Prop} (htext : ∀ p s, P (.literal p (.text s)))
    {ts : List Token} (h : ∀ t ∈ ts, P t) : ∀ t ∈ mergeTexts ts, P t := by
  fun_induction mergeTexts ts with
  | case1 => exact h
  | case2 p s ts q s' ts' hm ih =>
    have hts := ih (List.forall_mem_cons.mp h).2
    rw [hm] at hts
    exact List.forall_mem_cons.mpr ⟨htext p _, (List.forall_mem_cons.mp hts).2⟩
  | case3 p s ts hm ih =>
    exact List.forall_mem_cons.mpr ⟨htext p s, ih (List.forall_mem_cons.mp h).2⟩
  | case4 t ts hm ih =>
    have ⟨ht, hts⟩ := List.forall_mem_cons.mp h
    exact List.forall_mem_cons.mpr ⟨ht, ih hts⟩

theorem mergeTexts_of_not_text {t : Token} (h : t.isText = false) (ts : List Token) :
    mergeTexts (t :: ts) = t :: mergeTexts ts := by
  rw [mergeTexts]
  rintro p s rfl
  cases h

theorem mergeTexts_of_not_both {t u : Token} (h : (t.isText && u.isText) = false)
    (ts : List Token) : mergeTexts (t :: u :: ts) = t :: mergeTexts (u :: ts) := by
  by_cases ht : t.isText = true
  · have hu : u.isText = false := by simpa [ht] using h
    obtain ⟨p, s, rfl⟩ := Token.exists_of_isText ht
    rw [mergeTexts_of_not_text hu, mergeTexts, mergeTexts_of_not_text hu]
    split
    · rename_i q s' us hm
      obtain rfl := (List.cons.inj hm).1
      cases hu
    · rfl
  · exact mergeTexts_of_not_text (Bool.eq_false_iff.mpr ht) _

theorem mergeTexts_singleton (t : Token) : mergeTexts [t] = [t] := by
  cases t with
  | call p name args => rfl
  | punctuation p mark => rfl
  | literal p v => cases v <;> rfl

/-- What is not a text keeps the texts around it apart. -/
theorem mergeTexts_append {t : Token} (h : t.isText = false) (ts us : List Token) :
    mergeTexts (ts ++ t :: us) = mergeTexts ts ++ t :: mergeTexts us := by
  induction ts with
  | nil => exact mergeTexts_of_not_text h us
  | cons u ts ih =>
    rw [List.cons_append]
    by_cases hu : u.isText = true
    · obtain ⟨p, s, rfl⟩ := Token.exists_of_isText hu
      rw [mergeTexts, mergeTexts, ih]
      rcases mergeTexts ts with _ | ⟨w, ws⟩
      · rw [List.nil_append]
        split
        · rename_i q s' vs hm
          obtain rfl := (List.cons.inj hm).1
          cases h
        · rfl
      · rw [List.cons_append]
        split
        · rename_i q s' vs hm
          obtain ⟨rfl, rfl⟩ := List.cons.inj hm
          rfl
        · rename_i hm
          split
          · rename_i q s' vs hm'
            obtain ⟨rfl, rfl⟩ := List.cons.inj hm'
            exact absurd rfl (hm q s' _)
          · rfl
    · have hu' : u.isText = false := Bool.eq_false_iff.mpr hu
      rw [mergeTexts_of_not_text hu', mergeTexts_of_not_text hu', ih, List.cons_append]

theorem mergeTexts_concat_text (ts : List Token) (p : Span) (s : String) :
    ∃ us q s', mergeTexts (ts ++ [.literal p (.text s)]) = us ++ [.literal q (.text s')] := by
  induction ts with
  | nil => exact ⟨[], p, s, mergeTexts_singleton _⟩
  | cons t ts ih =>
    obtain ⟨us, q, s', h⟩ := ih
    rw [List.cons_append]
    by_cases ht : t.isText = true
    · obtain ⟨r, a, rfl⟩ := Token.exists_of_isText ht
      rw [mergeTexts, h]
      cases us with
      | nil => exact ⟨[], r, a ++ s', rfl⟩
      | cons u us =>
        rw [List.cons_append]
        split
        · rename_i r' b vs hm
          obtain ⟨rfl, rfl⟩ := List.cons.inj hm
          exact ⟨_ :: us, q, s', rfl⟩
        · exact ⟨_ :: u :: us, q, s', rfl⟩
    · rw [mergeTexts_of_not_text (Bool.eq_false_iff.mpr ht), h]
      exact ⟨t :: us, q, s', rfl⟩

theorem eq_concat_of_mergeTexts {ts us : List Token} {t : Token} (ht : t.isText = false)
    (h : mergeTexts ts = us ++ [t]) : ∃ vs, ts = vs ++ [t] ∧ mergeTexts vs = us := by
  rcases List.eq_nil_or_concat' ts with rfl | ⟨vs, u, rfl⟩
  · exact absurd h.symm (List.append_ne_nil_of_right_ne_nil us (List.cons_ne_nil t []))
  · by_cases hu : u.isText = true
    · obtain ⟨p, s, rfl⟩ := Token.exists_of_isText hu
      obtain ⟨us', q, s', hm⟩ := mergeTexts_concat_text vs p s
      obtain ⟨-, hlast⟩ := List.append_inj' (h.symm.trans hm) rfl
      obtain rfl := (List.cons.inj hlast).1
      cases ht
    · have hm := mergeTexts_append (Bool.eq_false_iff.mpr hu) vs []
      obtain ⟨rfl, hlast⟩ := List.append_inj' (h.symm.trans hm) rfl
      obtain rfl := (List.cons.inj hlast).1
      exact ⟨vs, rfl, rfl⟩

theorem foldlM_joinNext (u : Token) (us ts : List Token) :
    ts.foldlM joinNext (u :: us) = .ok ((mergeTexts (u :: ts)).reverse ++ us) := by
  induction ts generalizing u us with
  | nil =>
    rw [mergeTexts_singleton]
    rfl
  | cons t ts ih =>
    rw [List.foldlM_cons, joinNext]
    by_cases hb : (u.isText && t.isText) = true
    · obtain ⟨hu, ht⟩ := Bool.and_eq_true_iff.mp hb
      obtain ⟨p, s, rfl⟩ := Token.exists_of_isText hu
      obtain ⟨q, s', rfl⟩ := Token.exists_of_isText ht
      rw [mergeTexts_text_text]
      exact ih (.text p (s ++ s')) us
    · have hk := mergeTexts_of_not_both (Bool.eq_false_iff.mpr hb) ts
      rw [if_neg hb, hk, List.reverse_cons, List.append_assoc]
      exact ih t (u :: us)

theorem joinAll_eq (ts : List Token) : joinAll ts = .ok (mergeTexts ts) := by
  cases ts with
  | nil => rfl
  | cons t ts =>
    have h : (t :: ts).foldlM joinNext [] = ts.foldlM joinNext [t] := rfl
    rw [joinAll, h, foldlM_joinNext]
    simp [Except.map]

end Lexer

end BracketScript
