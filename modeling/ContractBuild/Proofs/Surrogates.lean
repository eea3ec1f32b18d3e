import ContractBuild.Proofs.Json.Quoted
import ContractBuild.Proofs.Lines
import ContractBuild.Proofs.NormalForms

/-!
# Surrogates in what a build takes and makes

What a process writes is bytes, and these are never read as surrogates; so the lines of a line buffer have none
(`LineBuffer.Clear.take`, `LineBuffer.Clear.finish`). A message can still name surrogates in escapes, and the halves that
stand in its texts are then passed on. No two of them become a pair when texts are cut into parts, or when they are put
together with something else between them (`Text.unpaired_of_infix`, `Text.unpaired_append`): this goes for the lines of
a text, and for a path that is taken from a folder (`Path.unpaired_absolute`).
-/

namespace ContractBuild

/-! ## Parts of a text -/

namespace Text

variable {t u : Text}

theorem unpaired_of_infix (h : u <:+: t) (ht : t.Unpaired) : u.Unpaired := by
  obtain ⟨before, after, rfl⟩ := h
  exact (List.IsChain.left_of_append ht).right_of_append

/-- Two texts are put together without making a pair when one of them has no surrogate at the border. -/
theorem unpaired_append (ht : t.Unpaired) (hu : u.Unpaired)
    (h : (∀ c ∈ t.getLast?, c.isSurrogate = false) ∨ ∀ c ∈ u.head?, c.isSurrogate = false) : (t ++ u).Unpaired := by
  refine List.isChain_append.2 ⟨ht, hu, fun c hc d hd hpair => ?_⟩
  simp only [CodePoint.isHighSurrogate, CodePoint.isLowSurrogate, Bool.and_eq_true, decide_eq_true_eq] at hpair
  rcases h with h | h
  · have hnone := h c hc
    simp only [CodePoint.isSurrogate, Bool.and_eq_false_iff, decide_eq_false_iff_not] at hnone
    omega
  · have hnone := h d hd
    simp only [CodePoint.isSurrogate, Bool.and_eq_false_iff, decide_eq_false_iff_not] at hnone
    omega

theorem unpaired_append_of_isScalar (ht : t.Unpaired) (hu : u.isScalar = true) : (t ++ u).Unpaired :=
  unpaired_append ht (unpaired_of_isScalar hu) (.inr fun c hc => isScalar_iff.1 hu c (List.mem_of_mem_head? hc))

theorem unpaired_of_isScalar_append (ht : t.isScalar = true) (hu : u.Unpaired) : (t ++ u).Unpaired :=
  unpaired_append (unpaired_of_isScalar ht) hu (.inl fun c hc => isScalar_iff.1 ht c (List.mem_of_getLast? hc))

/-- Two texts with a text without surrogates between them. -/
theorem unpaired_between {separator : Text} (h : separator.isScalar = true) (hne : separator ≠ []) (ht : t.Unpaired)
    (hu : u.Unpaired) : (t ++ separator ++ u).Unpaired := by
  refine unpaired_append (unpaired_append_of_isScalar ht h) hu (.inl fun c hc => ?_)
  rw [List.getLast?_append_of_ne_nil t hne] at hc
  exact isScalar_iff.1 h c (List.mem_of_getLast? hc)

/-- Texts with a text without surrogates between neighbours. -/
theorem unpaired_intercalate {separator : Text} (h : separator.isScalar = true) (hne : separator ≠ [])
    {ts : List Text} (hts : ∀ t ∈ ts, t.Unpaired) : Unpaired (separator.intercalate ts) := by
  induction ts with
  | nil => exact .nil
  | cons t ts ih =>
    obtain ⟨ht, hts⟩ := List.forall_mem_cons.1 hts
    cases ts with
    | nil => rwa [List.intercalate_singleton]
    | cons u us =>
      rw [List.intercalate_cons_cons]
      exact unpaired_between h hne ht (ih hts)

/-! ## Lines of a text -/

theorem infix_of_mem_linesFrom {afterReturn : Bool} {line t s : Text} (hline : afterReturn = true → line = [])
    (h : s ∈ linesFrom afterReturn line t) : s <:+: line.reverse ++ t := by
  induction t generalizing afterReturn line with
  | nil =>
    rw [linesFrom] at h
    split at h
    · cases h
    · rw [List.mem_singleton.1 h, List.append_nil]
  | cons c t ih =>
    rw [linesFrom] at h
    split at h
    · -- the line feed of a line end that a carriage return has begun, where no line is open
      rename_i hfeed
      rw [Bool.and_eq_true] at hfeed
      rw [hline hfeed.1] at h ⊢
      exact (ih (fun _ => rfl) h).trans (List.suffix_cons c t).isInfix
    · split at h
      · rcases List.mem_cons.1 h with rfl | h
        · exact (List.prefix_append _ _).isInfix
        · exact (ih (fun _ => rfl) h).trans ((List.suffix_cons c t).trans (List.suffix_append _ _)).isInfix
      · have hrest := ih (fun e => absurd e Bool.false_ne_true) h
        rwa [List.reverse_cons, List.append_assoc] at hrest

/-- A line of a text stands in it. -/
theorem infix_of_mem_lines {s : Text} (h : s ∈ t.lines) : s <:+: t :=
  infix_of_mem_linesFrom (fun _ => rfl) h

theorem strip_subset (t : Text) : t.strip ⊆ t := by
  intro c hc
  rw [strip, stripRight, List.mem_reverse] at hc
  exact (List.dropWhile_sublist _).subset (List.mem_reverse.1 ((List.dropWhile_sublist _).subset hc))

theorem isScalar_of_mem_trimmed {ts : List Text} (hts : ∀ t ∈ ts, t.isScalar = true) (h : t ∈ trimmed ts) :
    t.isScalar = true := by
  obtain ⟨s, hs, rfl⟩ := List.mem_map.1 (List.mem_filter.1 h).1
  exact isScalar_of_subset (strip_subset s) (hts s hs)

theorem isScalar_reverse (h : t.isScalar = true) : isScalar t.reverse = true :=
  isScalar_of_subset (fun _ => List.mem_reverse.1) h

end Text

/-! ## Paths -/

namespace Path

theorem mem_push {rooted : Bool} {done : List Text} {s t : Text} (h : t ∈ push rooted done s) : t = s ∨ t ∈ done := by
  unfold push at h
  split at h
  · exact .inr h
  · split at h
    · rename_i hs
      unfold up at h
      split at h
      · split at h
        · cases h
        · exact .inl ((List.mem_singleton.1 h).trans hs.symm)
      · split at h
        · exact (List.mem_cons.1 h).imp_left fun e => e.trans hs.symm
        · exact .inr (List.mem_cons_of_mem _ h)
    · exact List.mem_cons.1 h

/-- The segments of a path are parts of it. -/
theorem infix_of_mem_segments {p s : Text} (h : s ∈ segments p) : s <:+: p := by
  rw [segments, resolveFrom_eq_foldl, List.mem_reverse] at h
  have hfold (segs done : List Text) (h : s ∈ segs.foldl (push (isAbsolute p)) done) : s ∈ segs ∨ s ∈ done := by
    induction segs generalizing done with
    | nil => exact .inr h
    | cons d segs ih =>
      rcases ih _ h with h | h
      · exact .inl (List.mem_cons_of_mem d h)
      · exact (mem_push h).imp_left fun e => List.mem_cons.2 (.inl e)
  rcases hfold _ _ h with h | h
  · exact Text.infix_of_mem_splitOn h
  · cases h

theorem isScalar_root (p : Text) : (root p).isScalar = true := by
  unfold root
  split
  · rfl
  · split <;> rfl

theorem unpaired_join {base p : Text} (hbase : base.Unpaired) (hp : p.Unpaired) : (join base p).Unpaired := by
  have hslash : Text.isScalar [slash] = true := by decide
  unfold join
  split
  · exact hp
  · split
    · rename_i hend
      refine Text.unpaired_append hbase hp (.inl fun c hc => ?_)
      rw [Bool.or_eq_true, List.isEmpty_iff, decide_eq_true_eq] at hend
      rcases hend with rfl | hend
      · cases hc
      · rw [hend] at hc
        exact Text.isScalar_iff.1 hslash c (List.mem_singleton.2 (Option.some.inj hc).symm)
    · rw [List.append_assoc]
      refine Text.unpaired_append hbase (Text.unpaired_of_isScalar_append (by decide) hp) (.inr fun c hc => ?_)
      exact Text.isScalar_iff.1 hslash c (List.mem_singleton.2 (Option.some.inj hc).symm)

/-- **A path that is taken from a folder** has no pair when both have none. -/
theorem unpaired_absolute {cwd p : Text} (hcwd : cwd.Unpaired) (hp : p.Unpaired) : (absolute cwd p).Unpaired := by
  have hjoin := unpaired_join hcwd hp
  have hslash : Text.isScalar "/" = true := by decide
  have hsegments : (ofSegments (segments (join cwd p))).Unpaired :=
    Text.unpaired_intercalate hslash (List.cons_ne_nil _ _) fun s hs =>
      Text.unpaired_of_infix (infix_of_mem_segments hs) hjoin
  unfold absolute normalize
  dsimp only
  split
  · exact Text.unpaired_of_isScalar (by decide)
  · exact Text.unpaired_of_isScalar_append (isScalar_root _) hsegments

end Path

/-! ## Line buffers -/

/-- A chunk that has no surrogates. Bytes have none, whatever they are. -/
def Chunk.Clear : Chunk → Prop
  | .text t => t.isScalar = true
  | .bytes _ => True

instance : (c : Chunk) → Decidable c.Clear
  | .text t => inferInstanceAs (Decidable (t.isScalar = true))
  | .bytes _ => inferInstanceAs (Decidable True)

namespace OpenLine

theorem isScalar_pushFree {line : Text} {c : CodePoint} (hline : line.isScalar = true) (hc : c.isSurrogate = false) :
    (∀ t ∈ (pushFree line c).1, t.isScalar = true) ∧ (pushFree line c).2.reversed.isScalar = true := by
  unfold pushFree
  split
  · exact ⟨List.forall_mem_singleton.2 (Text.isScalar_reverse hline), rfl⟩
  · split
    · exact ⟨List.forall_mem_nil _, hline⟩
    · exact ⟨List.forall_mem_nil _, Text.isScalar_iff.2 (List.forall_mem_cons.2 ⟨hc, Text.isScalar_iff.1 hline⟩)⟩

/-- **One code point** that is no surrogate. -/
theorem isScalar_push {o : OpenLine} {c : CodePoint} (ho : o.reversed.isScalar = true) (hc : c.isSurrogate = false) :
    (∀ t ∈ (o.push c).1, t.isScalar = true) ∧ (o.push c).2.reversed.isScalar = true := by
  unfold push
  split
  · split
    · exact ⟨List.forall_mem_singleton.2 (Text.isScalar_reverse ho), rfl⟩
    · have hfresh : Text.isScalar [] = true := rfl
      obtain ⟨hended, hopen⟩ := isScalar_pushFree hfresh hc
      exact ⟨List.forall_mem_cons.2 ⟨Text.isScalar_reverse ho, hended⟩, hopen⟩
  · exact isScalar_pushFree ho hc

/-- **A text** without surrogates. -/
theorem isScalar_pushAll {o : OpenLine} {t : Text} (ho : o.reversed.isScalar = true) (ht : t.isScalar = true) :
    (∀ line ∈ (o.pushAll t).1, line.isScalar = true) ∧ (o.pushAll t).2.reversed.isScalar = true := by
  induction t generalizing o with
  | nil => exact ⟨List.forall_mem_nil _, ho⟩
  | cons c t ih =>
    obtain ⟨hc, ht⟩ := List.forall_mem_cons.1 (Text.isScalar_iff.1 ht)
    obtain ⟨hended, hopen⟩ := isScalar_push ho hc
    obtain ⟨hmore, hlast⟩ := ih hopen (Text.isScalar_iff.2 ht)
    exact ⟨List.forall_mem_append.2 ⟨hended, hmore⟩, hlast⟩

end OpenLine

namespace LineBuffer

/-- A buffer that gives no surrogate, as long as it takes none: it is one for UTF-8, and neither what it has read nor the
sequence that is open has one. -/
structure Clear (b : LineBuffer) : Prop where
  decoder : ∃ s : Utf8.State, b.decoder = .utf8 s ∧ s.Clear
  line : b.line.reversed.isScalar = true

theorem clear_empty : empty.Clear := ⟨⟨.start, rfl, trivial⟩, rfl⟩

variable {b : LineBuffer}

theorem Clear.readChunk (h : b.Clear) {c : Chunk} (hc : c.Clear) :
    (b.decoder.readChunk c).1.isScalar = true ∧ ∃ s : Utf8.State, (b.decoder.readChunk c).2 = .utf8 s ∧ s.Clear := by
  obtain ⟨s, hs, hclear⟩ := h.decoder
  rw [hs]
  cases c with
  | text t => exact ⟨hc, s, rfl, hclear⟩
  | bytes bs =>
    obtain ⟨hread, hnext⟩ := Utf8.isScalar_readAll hclear bs
    exact ⟨hread, _, rfl, hnext⟩

/-- **A chunk** without surrogates gives lines without surrogates. -/
theorem Clear.take (h : b.Clear) {c : Chunk} (hc : c.Clear) :
    (∀ line ∈ (b.take c).1, line.isScalar = true) ∧ (b.take c).2.Clear := by
  obtain ⟨hread, hdecoder⟩ := h.readChunk hc
  obtain ⟨hended, hopen⟩ := OpenLine.isScalar_pushAll h.line hread
  rw [take_eq]
  exact ⟨fun _ => Text.isScalar_of_mem_trimmed hended, hdecoder, hopen⟩

/-- **The end** of the output gives no surrogate either. -/
theorem Clear.finish (h : b.Clear) : (∀ line ∈ b.finish.1, line.isScalar = true) ∧ b.finish.2.Clear := by
  obtain ⟨s, hs, hclear⟩ := h.decoder
  unfold LineBuffer.finish
  split
  · exact ⟨List.forall_mem_nil _, h⟩
  · refine ⟨fun _ => Text.isScalar_of_mem_trimmed (List.forall_mem_singleton.2 ?_), h.decoder, rfl⟩
    rw [Text.isScalar, List.all_append, Bool.and_eq_true, hs]
    exact ⟨Text.isScalar_reverse h.line, Utf8.isScalar_flush s⟩

end LineBuffer

end ContractBuild
