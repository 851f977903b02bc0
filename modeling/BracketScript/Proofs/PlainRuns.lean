import BracketScript.Proofs.DecimalNotation
import BracketScript.Proofs.Literals
import BracketScript.Proofs.Splicing

/-! Runs of plain characters, and what the lexer makes of a stretch whatever follows it. -/

namespace BracketScript

namespace Lexer

def tokensAt (p : Span) (s : List Char) : List Token :=
  mergeTexts (scan p s)

theorem isPlain_iff {c : Char} : isPlain c = true ↔ c ∉ escapable := by
  rw [isPlain, Bool.not_eq_true', Bool.eq_false_iff, Ne, isEscapable_iff]

/-- A kind of characters none of which can be escaped. -/
theorem isPlain_of_kind {kind : Char → Bool} (hkind : escapable.any kind = false) {c : Char}
    (h : kind c = true) : isPlain c = true := by
  rw [isPlain_iff]
  intro hc
  exact List.any_eq_false.mp hkind c hc h

theorem isPlain_of_isBlank {c : Char} (h : Text.isBlank c = true) : isPlain c = true :=
  isPlain_of_kind (by decide) h

theorem isPlain_of_mem_ofInt {n : Int} {c : Char} (h : c ∈ Decimal.ofInt n) :
    isPlain c = true := by
  rcases Decimal.mem_ofInt h with rfl | hd
  · decide
  · exact isPlain_of_kind (by decide) hd

/-- A run of plain characters ends where `s` begins. -/
def EndsRun (s : List Char) : Prop :=
  ∀ c ∈ s.head?, isPlain c = false

theorem endsRun_nil : EndsRun [] :=
  nofun

theorem endsRun_dropWhile (s : List Char) : EndsRun (s.dropWhile isPlain) := by
  intro c hc
  have hnot := List.head?_dropWhile_not isPlain s
  rw [hc] at hnot
  simpa using hnot

theorem takeWhile_append_of_endsRun {run s : List Char} (h : ∀ c ∈ run, isPlain c = true)
    (hs : EndsRun s) : (run ++ s).takeWhile isPlain = run := by
  have hnil : s.takeWhile isPlain = [] := by
    cases s with
    | nil => rfl
    | cons c s =>
      rw [List.takeWhile_cons_of_neg]
      simpa using hs c rfl
  rw [List.takeWhile_append_of_pos h, hnil, List.append_nil]

/-- At `p` the lexer makes `ts` of `s`, before all that no run goes on in. -/
def ScansTo (p : Span) (s : List Char) (ts : List Token) : Prop :=
  ∀ t, EndsRun t → scan p (s ++ t) = ts ++ scan (p.after s) t

namespace ScansTo

variable {p : Span} {s : List Char} {ts : List Token}

theorem scan_eq (h : ScansTo p s ts) : scan p s = ts := by
  have hnil := h [] endsRun_nil
  simpa only [List.append_nil, scan] using hnil

theorem tokensAt_eq (h : ScansTo p s ts) : tokensAt p s = mergeTexts ts := by
  rw [tokensAt, h.scan_eq]

theorem nil (p : Span) : ScansTo p [] [] :=
  fun _ _ => rfl

theorem run (p : Span) {run : List Char} (hne : run ≠ []) (h : ∀ c ∈ run, isPlain c = true) :
    ScansTo p run [(plainLexeme run).toToken p] := by
  intro t ht
  obtain ⟨c, run, rfl⟩ := List.exists_cons_of_ne_nil hne
  have ⟨hc, hrun⟩ := List.forall_mem_cons.mp h
  rw [List.cons_append, scan_cons, lexeme_plain hc, takeWhile_append_of_endsRun hrun ht,
    List.take_left, List.drop_left]
  rfl

/-- One stretch after another, if no run goes on from the first into the second. -/
theorem append {s' : List Char} {ts' : List Token} (h : ScansTo p s ts)
    (h' : ScansTo (p.after s) s' ts') (hs' : ∀ t, EndsRun t → EndsRun (s' ++ t)) :
    ScansTo p (s ++ s') (ts ++ ts') := by
  intro t ht
  rw [List.append_assoc, h _ (hs' t ht), h' t ht, List.append_assoc, Span.after_append]

end ScansTo

theorem spelling_plainLexeme (run : List Char) : (plainLexeme run).spelling = run := by
  rw [plainLexeme]
  split
  · rename_i n hn
    exact Decimal.ofInt_of_readWord? hn
  · exact spelling_text run

theorem isDatum_plainLexeme (p : Span) (run : List Char) :
    ((plainLexeme run).toToken p).IsDatum := by
  rw [plainLexeme]
  split <;> trivial

theorem tokensAt_ofInt (p : Span) (n : Int64) :
    tokensAt p (Decimal.ofInt n.toInt) = [.literal p (.number n)] := by
  have hscan := ScansTo.run p (Decimal.ofInt_ne_nil n.toInt) fun _ hc => isPlain_of_mem_ofInt hc
  rw [hscan.tokensAt_eq, mergeTexts_singleton, plainLexeme, Decimal.readWord?_ofInt]
  rfl

end Lexer

theorem tokenize_eq_tokensAt {source : String} (h : source ≠ "") :
    tokenize source = .ok (Lexer.tokensAt .start source.toList) := by
  rw [tokenize, if_neg (by simpa using h)]
  rfl

end BracketScript
