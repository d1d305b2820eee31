import Mathlib.Data.List.Basic

/-! Python's `shlex.quote` and the POSIX-mode `shlex.split` with `whitespace_split` that
`util.run` applies to a command line, following the states of `shlex.read_token`. `split` has
no value where `shlex` raises `ValueError`: a quote or an escape still open at the end of the
text. `quote` leaves a word of safe characters bare and otherwise single-quotes it, writing each
`'` as `'"'"'`. A plain word (no blank, quote or backslash) lexes as itself, and unquoted text
(no quote, no backslash) opens nothing, which gives the round trip of a quoted word. -/

namespace SlurmResume.Shlex
open List

def sq : Char := Char.ofNat 39

def dq : Char := Char.ofNat 34

def bs : Char := Char.ofNat 92

def sqStr : String := String.mk [sq]

def safeChar (c : Char) : Bool := c.isAlphanum || "_@%+=:,./-".toList.contains c

def escapeQuotes (s : List Char) : List Char :=
  s.flatMap fun c => if c = sq then [sq, dq, sq, dq, sq] else [c]

def quoteChars (s : List Char) : List Char :=
  if s = [] then [sq, sq]
  else if s.all safeChar then s
  else sq :: escapeQuotes s ++ [sq]

def quote (s : String) : String := String.mk (quoteChars s.toList)

inductive LexState
  | blank
  | word
  | squote
  | dquote
  | escWord
  | escDquote
deriving DecidableEq

def isBlank (c : Char) : Bool := c = ' ' || c = '\t' || c = '\r' || c = '\n'

def splitFrom : List Char → LexState → List Char → Bool → Option (List String)
  | [], .blank, _, _ => some []
  | [], .word, tok, quoted => some (if tok ≠ [] ∨ quoted then [String.mk tok] else [])
  | [], _, _, _ => none
  | c :: cs, .blank, _, _ =>
    if isBlank c then splitFrom cs .blank [] false
    else if c = bs then splitFrom cs .escWord [] false
    else if c = sq then splitFrom cs .squote [] true
    else if c = dq then splitFrom cs .dquote [] true
    else splitFrom cs .word [c] false
  | c :: cs, .word, tok, quoted =>
    if isBlank c then
      if tok ≠ [] ∨ quoted then (splitFrom cs .blank [] false).map (String.mk tok :: ·)
      else splitFrom cs .blank [] false
    else if c = sq then splitFrom cs .squote tok true
    else if c = dq then splitFrom cs .dquote tok true
    else if c = bs then splitFrom cs .escWord tok quoted
    else splitFrom cs .word (tok ++ [c]) quoted
  | c :: cs, .squote, tok, _ =>
    if c = sq then splitFrom cs .word tok true else splitFrom cs .squote (tok ++ [c]) true
  | c :: cs, .dquote, tok, _ =>
    if c = dq then splitFrom cs .word tok true
    else if c = bs then splitFrom cs .escDquote tok true
    else splitFrom cs .dquote (tok ++ [c]) true
  | c :: cs, .escWord, tok, quoted => splitFrom cs .word (tok ++ [c]) quoted
  | c :: cs, .escDquote, tok, quoted =>
    splitFrom cs .dquote (if c = dq ∨ c = bs then tok ++ [c] else tok ++ [bs, c]) quoted

def split (s : String) : Option (List String) := splitFrom s.toList .blank [] false

def Plain (w : List Char) : Prop := ∀ c ∈ w, isBlank c = false ∧ c ≠ sq ∧ c ≠ dq ∧ c ≠ bs

instance (w : List Char) : Decidable (Plain w) := by unfold Plain; infer_instance

theorem plain_append {a b : List Char} : Plain (a ++ b) ↔ Plain a ∧ Plain b := forall_mem_append

theorem plain_of_safeChar {c : Char} (h : safeChar c = true) :
    isBlank c = false ∧ c ≠ sq ∧ c ≠ dq ∧ c ≠ bs := by
  refine ⟨Bool.eq_false_iff.mpr fun hb => ?_, ?_, ?_, ?_⟩
  · simp only [isBlank, Bool.or_eq_true, decide_eq_true_eq] at hb
    rcases hb with ((rfl | rfl) | rfl) | rfl <;> exact absurd h (by decide)
  all_goals rintro rfl; exact absurd h (by decide)

theorem splitFrom_word_plain {c : Char} (hc : Plain [c]) (cs tok : List Char) (quoted : Bool) :
    splitFrom (c :: cs) .word tok quoted = splitFrom cs .word (tok ++ [c]) quoted := by
  obtain ⟨h1, h2, h3, h4⟩ := hc c (mem_singleton_self c)
  simp [splitFrom, h1, h2, h3, h4]

theorem splitFrom_word_sq (cs tok : List Char) (quoted : Bool) :
    splitFrom (sq :: cs) .word tok quoted = splitFrom cs .squote tok true := by
  simp [splitFrom, show isBlank sq = false by decide]

theorem splitFrom_word_dq (cs tok : List Char) (quoted : Bool) :
    splitFrom (dq :: cs) .word tok quoted = splitFrom cs .dquote tok true := by
  simp [splitFrom, show isBlank dq = false by decide, show dq ≠ sq by decide]

theorem splitFrom_dquote_dq (cs tok : List Char) (quoted : Bool) :
    splitFrom (dq :: cs) .dquote tok quoted = splitFrom cs .word tok true := by
  simp [splitFrom]

theorem splitFrom_dquote_sq (cs tok : List Char) (quoted : Bool) :
    splitFrom (sq :: cs) .dquote tok quoted = splitFrom cs .dquote (tok ++ [sq]) true := by
  simp [splitFrom, show sq ≠ dq by decide, show sq ≠ bs by decide]

theorem splitFrom_blank_sq (cs : List Char) :
    splitFrom (sq :: cs) .blank [] false = splitFrom cs .squote [] true := by
  simp [splitFrom, show isBlank sq = false by decide, show sq ≠ bs by decide]

theorem splitFrom_squote_sq (cs tok : List Char) (quoted : Bool) :
    splitFrom (sq :: cs) .squote tok quoted = splitFrom cs .word tok true := by
  simp [splitFrom]

theorem splitFrom_squote_of_ne {c : Char} (hc : c ≠ sq) (cs tok : List Char) (quoted : Bool) :
    splitFrom (c :: cs) .squote tok quoted = splitFrom cs .squote (tok ++ [c]) true := by
  simp [splitFrom, hc]

theorem splitFrom_plain {w : List Char} (hw : Plain w) (rest tok : List Char) (quoted : Bool) :
    splitFrom (w ++ rest) .word tok quoted = splitFrom rest .word (tok ++ w) quoted := by
  induction w generalizing tok with
  | nil => simp
  | cons c w ih =>
    rw [cons_append, splitFrom_word_plain (fun d hd => hw d (by simp_all)),
      ih (fun d hd => hw d (mem_cons_of_mem _ hd))]
    simp

theorem splitFrom_escapeQuotes (s rest tok : List Char) :
    splitFrom (escapeQuotes s ++ sq :: rest) .squote tok true = splitFrom rest .word (tok ++ s) true := by
  induction s generalizing tok with
  | nil => simp [escapeQuotes, splitFrom_squote_sq]
  | cons c s ih =>
    by_cases hc : c = sq
    · subst hc
      simp only [escapeQuotes, flatMap_cons, if_pos, cons_append, nil_append] at ih ⊢
      rw [splitFrom_squote_sq, splitFrom_word_dq, splitFrom_dquote_sq, splitFrom_dquote_dq,
        splitFrom_word_sq, ih]
      simp
    · simp only [escapeQuotes, flatMap_cons, if_neg hc, cons_append, nil_append] at ih ⊢
      rw [splitFrom_squote_of_ne hc, ih]
      simp

theorem splitFrom_quoteChars (r rest tok : List Char) (quoted : Bool) :
    ∃ quoted', splitFrom (quoteChars r ++ rest) .word tok quoted =
      splitFrom rest .word (tok ++ r) quoted' := by
  unfold quoteChars
  split
  · subst r
    exact ⟨true, by simp [splitFrom_word_sq, splitFrom_squote_sq]⟩
  · split
    · exact ⟨quoted, splitFrom_plain (fun c hc => plain_of_safeChar ((all_eq_true.mp ‹_›) c hc)) _ _ _⟩
    · refine ⟨true, ?_⟩
      simp only [cons_append, append_assoc, singleton_append]
      rw [splitFrom_word_sq]
      exact splitFrom_escapeQuotes _ _ _

theorem splitFrom_blank_plain {c : Char} (hc : Plain [c]) (cs : List Char) :
    splitFrom (c :: cs) .blank [] false = splitFrom cs .word [c] false := by
  obtain ⟨h1, h2, h3, h4⟩ := hc c (mem_singleton_self c)
  simp [splitFrom, h1, h2, h3, h4]

theorem splitFrom_word_space {tok : List Char} (ht : tok ≠ []) (cs : List Char) (quoted : Bool) :
    splitFrom (' ' :: cs) .word tok quoted = (splitFrom cs .blank [] false).map (String.mk tok :: ·) := by
  simp [splitFrom, isBlank, ht]

theorem splitFrom_blank_word {w : List Char} (hw : Plain w) (hne : w ≠ []) (rest : List Char) :
    splitFrom (w ++ rest) .blank [] false = splitFrom rest .word w false := by
  obtain ⟨c, w, rfl⟩ := exists_cons_of_ne_nil hne
  rw [cons_append, splitFrom_blank_plain (fun d hd => hw d (by simp_all)),
    splitFrom_plain (fun d hd => hw d (mem_cons_of_mem c hd))]
  rfl

theorem splitFrom_words_quoteChars (ws : List String) {last : String} (r : String)
    (hws : ∀ w ∈ ws, Plain w.toList ∧ w.toList ≠ []) (hl : Plain last.toList) (hl0 : last.toList ≠ []) :
    splitFrom ((ws.flatMap fun w => w.toList ++ [' ']) ++ (last.toList ++ quoteChars r.toList))
      .blank [] false = some (ws ++ [last ++ r]) := by
  induction ws with
  | nil =>
    obtain ⟨q, hq⟩ := splitFrom_quoteChars r.toList [] last.toList false
    rw [append_nil] at hq
    have hne : last.toList ++ r.toList ≠ [] := fun h => hl0 (append_eq_nil.mp h).1
    rw [flatMap_nil, nil_append, splitFrom_blank_word hl hl0, hq, splitFrom, if_pos (Or.inl hne)]
    rfl
  | cons w ws ih =>
    obtain ⟨hw, hw0⟩ := hws w (mem_cons_self w ws)
    rw [flatMap_cons, append_assoc, append_assoc, splitFrom_blank_word hw hw0, singleton_append,
      splitFrom_word_space hw0, ih fun v hv => hws v (mem_cons_of_mem w hv)]
    rfl

/-- `shlex.split(shlex.quote(r)) == [r]` for every string `r`. -/
theorem split_quote (r : String) : split (quote r) = some [r] := by
  have hend : ∀ (w : List Char) (quoted : Bool), w = r.toList → (w ≠ [] ∨ quoted = true) →
      splitFrom [] .word w quoted = some [r] := by
    rintro w quoted rfl h
    simp only [splitFrom, if_pos h]
    rfl
  change splitFrom (quoteChars r.toList) .blank [] false = some [r]
  unfold quoteChars
  split
  · rename_i h
    rw [splitFrom_blank_sq, splitFrom_squote_sq]
    exact hend [] true h.symm (Or.inr rfl)
  · rename_i h0
    split
    · rw [← append_nil r.toList, splitFrom_blank_word (fun c hc => plain_of_safeChar
        ((all_eq_true.mp ‹_›) c (by simpa using hc))) (by simpa using h0)]
      exact hend _ false rfl (Or.inl h0)
    · rw [cons_append, splitFrom_blank_sq, splitFrom_escapeQuotes]
      exact hend _ true (nil_append _) (Or.inr rfl)

def Unquoted (w : List Char) : Prop := ∀ c ∈ w, c ≠ sq ∧ c ≠ dq ∧ c ≠ bs

instance (w : List Char) : Decidable (Unquoted w) :=
  inferInstanceAs (Decidable (∀ c ∈ w, c ≠ sq ∧ c ≠ dq ∧ c ≠ bs))

def Lexes (cs : List Char) : Prop :=
  (splitFrom cs .blank [] false).isSome ∧ ∀ tok quoted, (splitFrom cs .word tok quoted).isSome

theorem unquoted_append {a b : List Char} : Unquoted (a ++ b) ↔ Unquoted a ∧ Unquoted b := forall_mem_append

theorem unquoted_intercalate_go {sep acc : String} (hsep : Unquoted sep.data) (hacc : Unquoted acc.data) :
    ∀ {l : List String}, (∀ w ∈ l, Unquoted w.data) → Unquoted (String.intercalate.go acc sep l).data
  | [], _ => hacc
  | w :: l, h => @unquoted_intercalate_go sep (acc ++ sep ++ w) hsep
      (by rw [String.data_append, String.data_append, unquoted_append, unquoted_append]
          exact ⟨⟨hacc, hsep⟩, h w (mem_cons_self w l)⟩)
      l fun w' hw' => h w' (mem_cons_of_mem w hw')

theorem unquoted_intercalate {sep : String} (hsep : Unquoted sep.data) :
    ∀ {l : List String}, (∀ w ∈ l, Unquoted w.data) → Unquoted (sep.intercalate l).data
  | [], _ => (by decide : Unquoted "".data)
  | w :: l, h => unquoted_intercalate_go hsep (h w (mem_cons_self w l)) fun w' hw' => h w' (mem_cons_of_mem w hw')

theorem lexes_nil : Lexes [] := ⟨rfl, fun tok quoted => by simp only [splitFrom]; split <;> rfl⟩

theorem Lexes.unquoted_append {w rest : List Char} (hw : Unquoted w) (h : Lexes rest) : Lexes (w ++ rest) := by
  induction w with
  | nil => exact h
  | cons c w ih =>
    obtain ⟨h1, h2, h3⟩ := hw c (mem_cons_self c w)
    obtain ⟨ihb, ihw⟩ := ih fun d hd => hw d (mem_cons_of_mem c hd)
    refine ⟨?_, fun tok quoted => ?_⟩ <;> simp only [cons_append, splitFrom, if_neg h1, if_neg h2, if_neg h3]
    · split <;> simp [ihb, ihw]
    · split
      · split <;> simp [ihb]
      · exact ihw _ _

theorem escapeQuotes_of_not_mem {w : List Char} (hw : sq ∉ w) : escapeQuotes w = w := by
  induction w with
  | nil => rfl
  | cons c w ih =>
    rw [mem_cons, not_or] at hw
    have h : escapeQuotes (c :: w) = c :: escapeQuotes w := by simp [escapeQuotes, Ne.symm hw.1]
    rw [h, ih hw.2]

theorem Lexes.squoted_append {w rest : List Char} (hw : sq ∉ w) (h : Lexes rest) :
    Lexes (sq :: w ++ sq :: rest) := by
  have hq : ∀ tok, splitFrom (w ++ sq :: rest) .squote tok true = splitFrom rest .word (tok ++ w) true :=
    fun tok => by simpa [escapeQuotes_of_not_mem hw] using splitFrom_escapeQuotes w rest tok
  refine ⟨?_, fun tok quoted => ?_⟩
  · rw [cons_append, splitFrom_blank_sq, hq]
    exact h.2 _ _
  · rw [cons_append, splitFrom_word_sq, hq]
    exact h.2 _ _

theorem not_mem_of_unquoted {w : List Char} (hw : Unquoted w) : sq ∉ w := fun h => (hw sq h).1 rfl

theorem lexes_quoteChars {r : List Char} (hr : Unquoted r) : Lexes (quoteChars r) := by
  unfold quoteChars
  split
  · exact Lexes.squoted_append (not_mem_nil sq) lexes_nil
  · split
    · simpa using Lexes.unquoted_append hr lexes_nil
    · simpa [escapeQuotes_of_not_mem (not_mem_of_unquoted hr)] using
        Lexes.squoted_append (not_mem_of_unquoted hr) lexes_nil

theorem lexes_sq_quoteChars_sq {r : List Char} (hr : Unquoted r) : Lexes (sq :: quoteChars r ++ [sq]) := by
  have hsq := not_mem_of_unquoted hr
  unfold quoteChars
  split
  · show Lexes (sq :: [] ++ sq :: (sq :: [] ++ sq :: []))
    exact Lexes.squoted_append (not_mem_nil sq) (Lexes.squoted_append (not_mem_nil sq) lexes_nil)
  · split
    · simpa using Lexes.squoted_append hsq lexes_nil
    · simpa [escapeQuotes_of_not_mem hsq] using Lexes.squoted_append (not_mem_nil sq)
        (Lexes.unquoted_append hr (Lexes.squoted_append (not_mem_nil sq) lexes_nil))

end SlurmResume.Shlex
