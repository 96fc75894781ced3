/-
# Dotted chains in running text

A text falls apart into chains of words with single dots between them, and what stands around them.
A chain is as long as it can be: behind it no word goes on, neither at once nor after a dot. So the
chains of a text are found from the front, one after the other, and there is only one way to read
each of them.
-/
import TypedReference.Constant
import TypedReference.Proofs.Text.Split

namespace TypedReference.Constant

open Text

/-! ## Chains and what ends them -/

/-- The words with dots between them. -/
def dotted (words : List (List Char)) : List Char := joinWith ['.'] words

/-- Some words that can be read off the text that they make up with dots between them. -/
structure IsChain (words : List (List Char)) : Prop where
  /-- There is at least one word. -/
  ne_nil : words ≠ []
  /-- No word is empty. -/
  word_ne_nil : ∀ w ∈ words, w ≠ []
  /-- A word holds word characters only. -/
  isWord : ∀ w ∈ words, ∀ c ∈ w, isWord c = true

/-- What a chain can be followed by: a text that starts neither with a word character nor with a dot
and a word character. -/
structure EndsChain (after : List Char) : Prop where
  /-- The last word does not go on. -/
  word : ∀ c ∈ after.head?, isWord c = false
  /-- No further word follows behind a dot. -/
  dot : ∀ c r, after = '.' :: c :: r → isWord c = false

theorem isWord_dot : isWord '.' = false := by decide

theorem isWordOrDot_dot : ∀ c ∈ ['.'], isWordOrDot c = true := List.forall_mem_singleton.2 rfl

theorem dotted_cons {ps : List (List Char)} (h : ps ≠ []) (w : List Char) :
    dotted (w :: ps) = w ++ '.' :: dotted ps := by
  cases ps with
  | nil => exact absurd rfl h
  | cons p ps =>
      rw [dotted, dotted, joinWith_cons, joinWith_cons, List.flatMap_cons]
      rfl

theorem dotted_cons_cons (w p : List Char) (ps : List (List Char)) :
    dotted (w :: p :: ps) = w ++ '.' :: dotted (p :: ps) := dotted_cons (List.cons_ne_nil p ps) w

theorem dotted_singleton (w : List Char) : dotted [w] = w := by
  rw [dotted, joinWith_cons, List.flatMap_nil, List.append_nil]

namespace IsChain

variable {w p : List Char} {ps : List (List Char)}

theorem singleton (hne : w ≠ []) (hw : ∀ c ∈ w, Text.isWord c = true) : IsChain [w] where
  ne_nil := List.cons_ne_nil _ _
  word_ne_nil := by simpa using hne
  isWord := by simpa using hw

theorem cons (hne : w ≠ []) (hw : ∀ c ∈ w, Text.isWord c = true) (h : IsChain ps) :
    IsChain (w :: ps) where
  ne_nil := List.cons_ne_nil _ _
  word_ne_nil := List.forall_mem_cons.2 ⟨hne, h.word_ne_nil⟩
  isWord := List.forall_mem_cons.2 ⟨hw, h.isWord⟩

theorem tail (h : IsChain (w :: p :: ps)) : IsChain (p :: ps) where
  ne_nil := List.cons_ne_nil _ _
  word_ne_nil := (List.forall_mem_cons.1 h.word_ne_nil).2
  isWord := (List.forall_mem_cons.1 h.isWord).2

/-- A chain starts with a word character. -/
theorem exists_head {words : List (List Char)} (h : IsChain words) :
    ∃ c r, dotted words = c :: r ∧ Text.isWord c = true := by
  cases words with
  | nil => exact absurd rfl h.ne_nil
  | cons w ps =>
      cases w with
      | nil => exact absurd rfl (h.word_ne_nil [] List.mem_cons_self)
      | cons c w =>
          refine ⟨c, w ++ ps.flatMap fun p => ['.'] ++ p, ?_, ?_⟩
          · rw [dotted, joinWith_cons, List.cons_append]
          · exact h.isWord (c :: w) List.mem_cons_self c List.mem_cons_self

/-- So does a text that starts with a chain. -/
theorem exists_mem_head? {words : List (List Char)} (h : IsChain words) (r : List Char) :
    ∃ c ∈ (dotted words ++ r).head?, Text.isWord c = true := by
  obtain ⟨c, s, hwords, hc⟩ := h.exists_head
  exact ⟨c, by rw [hwords]; rfl, hc⟩

end IsChain

/-! ## One way to read a chain -/

/-- A word ends where the word characters end. -/
theorem word_append_inj {w w' r r' : List Char} (hw : ∀ c ∈ w, isWord c = true)
    (hw' : ∀ c ∈ w', isWord c = true) (hr : ∀ c ∈ r.head?, isWord c = false)
    (hr' : ∀ c ∈ r'.head?, isWord c = false) (h : w ++ r = w' ++ r') : w = w' ∧ r = r' := by
  have hread : ∀ {v s : List Char}, (∀ c ∈ v, isWord c = true) →
      (∀ c ∈ s.head?, isWord c = false) → (v ++ s).takeWhile isWord = v := by
    intro v s hv hs
    rw [List.takeWhile_append_of_pos hv]
    cases s with
    | nil => simp
    | cons c s => simp [hs c rfl]
  have hword : w = w' := by rw [← hread hw hr, h, hread hw' hr']
  rw [hword] at h
  exact ⟨hword, List.append_cancel_left h⟩

/-- A dot with another chain behind it ends no chain. -/
theorem IsChain.not_endsChain {words : List (List Char)} (h : IsChain words) (r : List Char) :
    ¬ EndsChain ('.' :: (dotted words ++ r)) := by
  intro hends
  obtain ⟨c, s, hwords, hc⟩ := h.exists_head
  have hdot := hends.dot c (s ++ r) (by rw [hwords, List.cons_append])
  rw [hc] at hdot
  exact absurd hdot (by decide)

/-- **One reading.** A chain and what follows it can be read off the text in one way only. -/
theorem IsChain.append_inj {ws ws' : List (List Char)} {r r' : List Char} (hws : IsChain ws)
    (hws' : IsChain ws') (hr : EndsChain r) (hr' : EndsChain r')
    (h : dotted ws ++ r = dotted ws' ++ r') : ws = ws' ∧ r = r' := by
  have hdot : ∀ s : List Char, ∀ c ∈ ('.' :: s).head?, Text.isWord c = false := by
    rintro s c ⟨⟩
    exact isWord_dot
  induction ws generalizing ws' with
  | nil => exact absurd rfl hws.ne_nil
  | cons w ps ih =>
      cases ws' with
      | nil => exact absurd rfl hws'.ne_nil
      | cons w' ps' =>
          have hw := hws.isWord w List.mem_cons_self
          have hw' := hws'.isWord w' List.mem_cons_self
          -- The first words are the same; then both chains go on or both end.
          cases ps with
          | nil =>
              cases ps' with
              | nil =>
                  rw [dotted_singleton, dotted_singleton] at h
                  obtain ⟨rfl, hrest⟩ := word_append_inj hw hw' hr.word hr'.word h
                  exact ⟨rfl, hrest⟩
              | cons p' qs' =>
                  rw [dotted_singleton, dotted_cons_cons, List.append_assoc,
                    List.cons_append] at h
                  obtain ⟨-, rfl⟩ := word_append_inj hw hw' hr.word (hdot _) h
                  exact absurd hr (hws'.tail.not_endsChain r')
          | cons p qs =>
              cases ps' with
              | nil =>
                  rw [dotted_singleton, dotted_cons_cons, List.append_assoc,
                    List.cons_append] at h
                  obtain ⟨-, rfl⟩ := word_append_inj hw hw' (hdot _) hr'.word h
                  exact absurd hr' (hws.tail.not_endsChain r)
              | cons p' qs' =>
                  rw [dotted_cons_cons, dotted_cons_cons, List.append_assoc, List.append_assoc,
                    List.cons_append, List.cons_append] at h
                  obtain ⟨rfl, hrest⟩ := word_append_inj hw hw' (hdot _) (hdot _) h
                  obtain ⟨hps, rfl⟩ := ih hws.tail hws'.tail (List.cons.inj hrest).2
                  exact ⟨by rw [hps], rfl⟩

/-! ## The first chain of a text -/

/-- A text that starts with a word character starts with a chain. -/
theorem exists_chain_of_head {c : Char} (l : List Char) (hc : isWord c = true) :
    ∃ words rest, c :: l = dotted words ++ rest ∧ IsChain words ∧ EndsChain rest := by
  have hw : ∀ d ∈ c :: l.takeWhile isWord, isWord d = true := by
    rw [List.forall_mem_cons]
    exact ⟨hc, fun d hd => List.mem_takeWhile_imp hd⟩
  have hsplit : c :: l = (c :: l.takeWhile isWord) ++ l.dropWhile isWord := by
    rw [List.cons_append, List.takeWhile_append_dropWhile]
  -- The chain goes on behind its first word, or it ends there.
  by_cases hgoes : ∃ d s, l.dropWhile isWord = '.' :: d :: s ∧ isWord d = true
  · obtain ⟨d, s, hrest, hd⟩ := hgoes
    have hlength : s.length < l.length := by
      have hle := List.length_dropWhile_le isWord l
      rw [hrest, List.length_cons, List.length_cons] at hle
      omega
    obtain ⟨words, rest, hs, hwords, hends⟩ := exists_chain_of_head s hd
    refine ⟨(c :: l.takeWhile isWord) :: words, rest, ?_, .cons (by simp) hw hwords, hends⟩
    rw [hsplit, hrest, hs, dotted_cons hwords.ne_nil, List.append_assoc]
    rfl
  · refine ⟨[c :: l.takeWhile isWord], l.dropWhile isWord, ?_, .singleton (by simp) hw, ?_, ?_⟩
    · rw [dotted_singleton, hsplit]
    · intro d hd
      have hstop := List.head?_dropWhile_not isWord l
      rw [Option.mem_def.1 hd] at hstop
      simpa using hstop
    · intro d s hrest
      rw [Bool.eq_false_iff]
      exact fun hd => hgoes ⟨d, s, hrest, hd⟩
termination_by l.length

/-- A text without word characters holds no chain; any other text falls apart into what stands in
front of its first chain, the chain, and what stands behind it. -/
theorem exists_chain (l : List Char) : (∀ c ∈ l, isWord c = false) ∨
    ∃ gap words rest, l = gap ++ (dotted words ++ rest) ∧ (∀ c ∈ gap, isWord c = false) ∧
      IsChain words ∧ EndsChain rest := by
  induction l with
  | nil => exact Or.inl fun c hc => absurd hc List.not_mem_nil
  | cons c l ih =>
      by_cases hc : isWord c = true
      · obtain ⟨words, rest, hl, hwords, hrest⟩ := exists_chain_of_head l hc
        exact Or.inr ⟨[], words, rest, hl, by simp, hwords, hrest⟩
      · rw [Bool.not_eq_true] at hc
        rcases ih with hnone | ⟨gap, words, rest, rfl, hgap, hwords, hrest⟩
        · exact Or.inl (List.forall_mem_cons.2 ⟨hc, hnone⟩)
        · have hgap' : ∀ d ∈ c :: gap, isWord d = false := List.forall_mem_cons.2 ⟨hc, hgap⟩
          exact Or.inr ⟨c :: gap, words, rest, rfl, hgap', hwords, hrest⟩

/-! ## The chains that are found -/

/-- The words of a piece without gaps, cut where two dots follow each other. -/
def pieceBlocks (piece : List Char) : List (List (List Char)) :=
  (piece.splitOn '.').splitOnP List.isEmpty

/-- The chains of a text before the empty ones are left out. -/
def blocks (l : List Char) : List (List (List Char)) :=
  (l.splitOnP fun c => !isWordOrDot c).flatMap pieceBlocks

theorem chains_eq_filter (l : List Char) :
    chains l = (blocks l).filter fun chain => !chain.isEmpty := rfl

theorem pieceBlocks_ne_nil (piece : List Char) : pieceBlocks piece ≠ [] := List.splitOnP_ne_nil _ _

/-- A dot in front of a piece makes an empty block. -/
theorem pieceBlocks_dot (piece : List Char) :
    pieceBlocks ('.' :: piece) = [] :: pieceBlocks piece := by
  have hdot : ('.' :: piece).splitOn '.' = [] :: piece.splitOn '.' :=
    List.splitOn_append_cons_self [] piece
  rw [pieceBlocks, hdot, List.splitOnP_cons_eq_if_modifyHead, if_pos List.isEmpty_nil, pieceBlocks]

section

variable {w : List Char}

theorem splitOn_word (hw : ∀ c ∈ w, isWord c = true) : w.splitOn '.' = [w] := by
  apply List.splitOn_eq_singleton
  intro hmem
  exact absurd (hw '.' hmem) (by decide)

variable (hne : w ≠ []) (hw : ∀ c ∈ w, isWord c = true)
include hne hw

/-- A word by itself is a block. -/
theorem pieceBlocks_word : pieceBlocks w = [[w]] := by
  rw [pieceBlocks, splitOn_word hw]
  apply List.splitOnP_eq_singleton
  simpa using hne

/-- A word with a dot behind it goes into the first block. -/
theorem pieceBlocks_word_dot (piece : List Char) :
    pieceBlocks (w ++ '.' :: piece) = (pieceBlocks piece).modifyHead (w :: ·) := by
  have hsplit : (w ++ '.' :: piece).splitOn '.' = w :: piece.splitOn '.' := by
    rw [List.splitOn_append_cons_self, splitOn_word hw, List.singleton_append]
  rw [pieceBlocks, hsplit, List.splitOnP_cons_eq_if_modifyHead, if_neg (by simpa using hne),
    ← pieceBlocks]

end

/-- What a dotted name can hold goes into the first piece. -/
theorem splitOnP_of_isWordOrDot {w : List Char} (hw : ∀ c ∈ w, isWordOrDot c = true)
    (l : List Char) : (w ++ l).splitOnP (fun c => !isWordOrDot c) =
      (l.splitOnP fun c => !isWordOrDot c).modifyHead (w ++ ·) := by
  apply splitOnP_append
  intro c hc
  rw [hw c hc, Bool.not_true]

/-- So the front of a text only matters for the blocks of its first piece. -/
theorem exists_blocks_append (l : List Char) : ∃ piece more,
    ∀ w : List Char, (∀ c ∈ w, isWordOrDot c = true) →
      blocks (w ++ l) = pieceBlocks (w ++ piece) ++ more := by
  cases h : l.splitOnP fun c => !isWordOrDot c with
  | nil => exact absurd h (List.splitOnP_ne_nil _ l)
  | cons piece pieces =>
      refine ⟨piece, pieces.flatMap pieceBlocks, ?_⟩
      intro w hw
      rw [blocks, splitOnP_of_isWordOrDot hw, h, List.modifyHead_cons, List.flatMap_cons]

/-- A dot in front of a text makes an empty block. -/
theorem blocks_dot (l : List Char) : blocks ('.' :: l) = [] :: blocks l := by
  obtain ⟨piece, more, happend⟩ := exists_blocks_append l
  have hdot : blocks ('.' :: l) = pieceBlocks ('.' :: piece) ++ more :=
    happend ['.'] isWordOrDot_dot
  have hnil : blocks l = pieceBlocks piece ++ more := happend [] (by simp)
  rw [hdot, hnil, pieceBlocks_dot, List.cons_append]

/-- A sign that stands in no dotted name makes two. -/
theorem blocks_gap {c : Char} (hc : isWordOrDot c = false) (l : List Char) :
    blocks (c :: l) = [] :: [] :: blocks l := by
  rw [blocks, List.splitOnP_cons_eq_if_modifyHead, if_pos (by simp [hc]), List.flatMap_cons,
    ← blocks]
  rfl

/-- A word with a dot behind it goes into the first block of a text. -/
theorem blocks_word_dot {w : List Char} (hne : w ≠ []) (hw : ∀ c ∈ w, isWord c = true)
    (l : List Char) : blocks (w ++ '.' :: l) = (blocks l).modifyHead (w :: ·) := by
  obtain ⟨piece, more, happend⟩ := exists_blocks_append l
  have hfront : ∀ c ∈ w ++ ['.'], isWordOrDot c = true := by
    rw [List.forall_mem_append]
    exact ⟨fun c hc => by rw [isWordOrDot, hw c hc, Bool.true_or], isWordOrDot_dot⟩
  have hword := happend (w ++ ['.']) hfront
  have hnil : blocks l = pieceBlocks piece ++ more := happend [] (by simp)
  rw [List.append_assoc, List.append_assoc, List.singleton_append, List.singleton_append,
    pieceBlocks_word_dot hne hw] at hword
  rw [hword, hnil]
  cases hpiece : pieceBlocks piece with
  | nil => exact absurd hpiece (pieceBlocks_ne_nil piece)
  | cons block blocks => rfl

/-- Where no word goes on, a text starts with an empty block. -/
theorem exists_blocks_of_head {l : List Char} (hl : ∀ c ∈ l.head?, isWord c = false) :
    ∃ more, blocks l = [] :: more := by
  cases l with
  | nil => exact ⟨[[]], rfl⟩
  | cons c l =>
      by_cases hdot : c = '.'
      · rw [hdot]
        exact ⟨_, blocks_dot l⟩
      · have hgap : isWordOrDot c = false := by simp [isWordOrDot, hl c rfl, hdot]
        exact ⟨_, blocks_gap hgap l⟩

/-- The last word of a chain is a block, and only empty blocks stand between it and the next
chain. -/
theorem exists_blocks_word {w l : List Char} (hne : w ≠ []) (hw : ∀ c ∈ w, isWord c = true)
    (hl : EndsChain l) : ∃ more, blocks (w ++ l) = [w] :: more ∧
      (more.filter fun chain => !chain.isEmpty) = chains l := by
  have hfront : ∀ c ∈ w, isWordOrDot c = true :=
    fun c hc => by rw [isWordOrDot, hw c hc, Bool.true_or]
  cases l with
  | nil =>
      refine ⟨[], ?_, rfl⟩
      rw [blocks, splitOnP_of_isWordOrDot hfront, List.splitOnP_nil, List.modifyHead_cons,
        List.append_nil, List.flatMap_singleton, pieceBlocks_word hne hw]
  | cons c l =>
      by_cases hdot : c = '.'
      · -- The chain ends at a dot, so no word follows it.
        subst hdot
        obtain ⟨more, hmore⟩ := exists_blocks_of_head (l := l) fun d hd => by
          cases l with
          | nil => cases hd
          | cons e s => exact hl.dot d s (by rw [← Option.some.inj hd])
        refine ⟨more, ?_, ?_⟩
        · rw [blocks_word_dot hne hw, hmore, List.modifyHead_cons]
        · rw [chains_eq_filter, blocks_dot, hmore]
          rfl
      · have hgap : isWordOrDot c = false := by simp [isWordOrDot, hl.word c rfl, hdot]
        have hpieces : (c :: l).splitOnP (fun c => !isWordOrDot c) =
            [] :: l.splitOnP fun c => !isWordOrDot c := by
          rw [List.splitOnP_cons_eq_if_modifyHead, if_pos (by simp [hgap])]
        refine ⟨blocks l, ?_, ?_⟩
        · rw [blocks, splitOnP_of_isWordOrDot hfront, hpieces, List.modifyHead_cons,
            List.append_nil, List.flatMap_cons, pieceBlocks_word hne hw, ← blocks,
            List.singleton_append]
        · rw [chains_eq_filter, blocks_gap hgap]
          rfl

/-- **The first chain is found first.** Behind it the search goes on. -/
theorem chains_dotted {words : List (List Char)} (hwords : IsChain words) {rest : List Char}
    (hrest : EndsChain rest) : chains (dotted words ++ rest) = words :: chains rest := by
  -- The induction is on the words; each goes in front of the first block.
  have hblocks : ∃ more, blocks (dotted words ++ rest) = words :: more ∧
      (more.filter fun chain => !chain.isEmpty) = chains rest := by
    induction words with
    | nil => exact absurd rfl hwords.ne_nil
    | cons w ps ih =>
        have hne := hwords.word_ne_nil w List.mem_cons_self
        have hw := hwords.isWord w List.mem_cons_self
        cases ps with
        | nil =>
            rw [dotted_singleton]
            exact exists_blocks_word hne hw hrest
        | cons p qs =>
            obtain ⟨more, hmore, hchains⟩ := ih hwords.tail
            refine ⟨more, ?_, hchains⟩
            rw [dotted_cons_cons, List.append_assoc, List.cons_append, blocks_word_dot hne hw,
              hmore]
            rfl
  obtain ⟨more, hmore, hchains⟩ := hblocks
  have hkeep : ((words :: more).filter fun chain => !chain.isEmpty) =
      words :: more.filter fun chain => !chain.isEmpty :=
    List.filter_cons_of_pos (by simpa using hwords.ne_nil)
  rw [chains_eq_filter, hmore, hkeep, hchains]

/-- What stands in front of the first chain is passed over. -/
theorem chains_gap_append {gap : List Char} (hgap : ∀ c ∈ gap, isWord c = false)
    (l : List Char) : chains (gap ++ l) = chains l := by
  induction gap with
  | nil => rfl
  | cons c gap ih =>
      obtain ⟨hc, hgap⟩ := List.forall_mem_cons.1 hgap
      rw [← ih hgap, List.cons_append, chains_eq_filter, chains_eq_filter]
      by_cases hdot : c = '.'
      · rw [hdot, blocks_dot]
        rfl
      · rw [blocks_gap (by simp [isWordOrDot, hc, hdot])]
        rfl

/-- A text without word characters has no chains. -/
theorem chains_gap {gap : List Char} (hgap : ∀ c ∈ gap, isWord c = false) : chains gap = [] := by
  rw [← List.append_nil gap, chains_gap_append hgap]
  rfl

end TypedReference.Constant
