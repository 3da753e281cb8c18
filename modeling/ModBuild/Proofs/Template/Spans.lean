import Mathlib.Data.List.Sort
import ModBuild.Proofs.Template.Chains

/-!
# `ModBuild.Proofs.Template.Spans`: one notion of a token

Names are checked when they are registered, tokens are looked up where a text holds them, and a
text is done when it holds none. The three questions are answered from one cut of the text, and this
file says what the answers have to do with each other, in terms of the parts of a text and of the
bytes between which they stand. The theorems:

* `exists_split_of_mem_spansFrom`: in a span stands a token.
* `pairwise_spansFrom`: spans follow each other and do not overlap.
* `exists_span_of_split`: wherever a token stands in the text, it starts within a span. So going on
  behind each token misses none that starts between two spans.
* `apart_of_mem_gapsFrom`: what stands in a gap stands in front of each span or behind it. So no
  token stands there.
* `ShowsTokens.unique`: no other spans are like that. The first place where the spans of two lists
  differ would be within a span that both have.
* `tokenSpans_by_names`: names, spans, and texts with tokens, each told by the others.
-/

set_option autoImplicit false

namespace ModBuild.Proofs.Template

open ModBuild ModBuild.Template

variable {s letters : List Char} {offset : Nat} {t : TokenSpan} {spans : List TokenSpan}

/-! ### The spans of a cut -/

/-- Both ways to count the bytes of a text agree. -/
theorem utf8Length_eq_byteSize (s : List Char) : utf8Length s = byteSize s := by
  have hall : ∀ n, s.foldl (fun n c => n + c.utf8Size) n = n + byteSize s := by
    induction s with
    | nil => simp [byteSize]
    | cons c s ih =>
      intro n
      rw [List.foldl_cons, ih, byteSize_cons, Nat.add_assoc]
  rw [utf8Length, hall, Nat.zero_add]

/-- A token has a span, and the other spans are behind it. -/
theorem spansFrom_token (offset : Nat) (letters : List Char) (rest : List Piece) :
    spansFrom offset (.token letters :: rest) =
      ⟨offset, offset + byteSize (tokenText letters), String.ofList (tokenText letters)⟩ ::
        spansFrom (offset + byteSize (tokenText letters)) rest := by
  simp only [spansFrom, utf8Length_eq_byteSize]

/-- In a span stands a token. -/
theorem exists_split_of_mem_spansFrom (h : t ∈ spansFrom offset (pieces s)) :
    ∃ front letters behind, IsTokenLetters letters ∧ s = front ++ tokenText letters ++ behind ∧
      t = ⟨offset + byteSize front, offset + byteSize (front ++ tokenText letters),
        String.ofList (tokenText letters)⟩ := by
  induction s using cut_induction generalizing offset with
  | nil => simp [spansFrom] at h
  | char c rest hc ih =>
    rw [pieces_of_char hc] at h
    obtain ⟨front, letters, behind, hletters, rfl, rfl⟩ := ih h
    refine ⟨c :: front, letters, behind, hletters, rfl, ?_⟩
    simp only [List.cons_append, byteSize_cons, Nat.add_assoc]
  | token found after hfound ih =>
    rw [pieces_tokenText_append hfound, spansFrom_token] at h
    rcases List.mem_cons.mp h with rfl | h
    · exact ⟨[], found, after, hfound, rfl, by simp [byteSize]⟩
    · obtain ⟨front, letters, behind, hletters, rfl, rfl⟩ := ih h
      refine ⟨tokenText found ++ front, letters, behind, hletters, by simp, ?_⟩
      simp only [byteSize_append, Nat.add_assoc]

/-- No span starts in front of the place that spans are counted from. -/
theorem le_start_of_mem_spansFrom {ps : List Piece} (h : t ∈ spansFrom offset ps) :
    offset ≤ t.start := by
  induction ps generalizing offset with
  | nil => simp [spansFrom] at h
  | cons p rest ih =>
    cases p with
    | char c => exact Nat.le_trans (Nat.le_add_right ..) (ih h)
    | token letters =>
      rw [spansFrom_token] at h
      rcases List.mem_cons.mp h with rfl | h
      · exact Nat.le_refl _
      · exact Nat.le_trans (Nat.le_add_right ..) (ih h)

/-- No span starts before the ones in front of it have stopped. -/
theorem pairwise_spansFrom (offset : Nat) (ps : List Piece) :
    (spansFrom offset ps).Pairwise fun t u => t.stop ≤ u.start := by
  induction ps generalizing offset with
  | nil => exact .nil
  | cons p rest ih =>
    cases p with
    | char c => exact ih _
    | token letters =>
      rw [spansFrom_token]
      exact .cons (fun u hu => le_start_of_mem_spansFrom hu) (ih _)

/-- A text without bytes is empty. -/
theorem eq_nil_of_byteSize_eq_zero (h : byteSize s = 0) : s = [] := by
  by_contra hne
  have hpos := one_le_byteSize hne
  omega

/-- Of two fronts of a text the longer one starts with the other. -/
theorem exists_append_of_byteSize_le {a b front part : List Char}
    (hle : byteSize a ≤ byteSize front) (h : a ++ b = front ++ part) :
    ∃ between, front = a ++ between ∧ b = between ++ part := by
  rcases List.append_eq_append_iff.mp h with ⟨between, hfront, hpart⟩ | ⟨inside, rfl, rfl⟩
  · exact ⟨between, hfront, hpart⟩
  · rw [byteSize_append] at hle
    have hnone : inside = [] := eq_nil_of_byteSize_eq_zero (by omega)
    subst hnone
    exact ⟨[], by simp, rfl⟩

/-- Fronts of as many bytes are one. -/
theorem append_inj_of_byteSize {a b front part : List Char} (hsize : byteSize a = byteSize front)
    (h : a ++ b = front ++ part) : a = front ∧ b = part := by
  obtain ⟨between, rfl, rfl⟩ := exists_append_of_byteSize_le (Nat.le_of_eq hsize) h
  rw [byteSize_append] at hsize
  have hnone : between = [] := eq_nil_of_byteSize_eq_zero (by omega)
  subst hnone
  exact ⟨(List.append_nil a).symm, rfl⟩

/-- Wherever a token stands in the text, it starts within a span. -/
theorem exists_span_of_split (offset : Nat) {front behind : List Char}
    (hletters : IsTokenLetters letters) (hsplit : s = front ++ tokenText letters ++ behind) :
    ∃ t ∈ spansFrom offset (pieces s),
      t.start ≤ offset + byteSize front ∧ offset + byteSize front < t.stop := by
  induction s using cut_induction generalizing offset front with
  | nil => simp [tokenText] at hsplit
  | char c rest hc ih =>
    obtain ⟨front, rfl, hrest⟩ := split_cons_of_none hc hletters hsplit
    rw [pieces_of_char hc, byteSize_cons, ← Nat.add_assoc]
    exact ih _ hrest
  | token found after hfound ih =>
    rw [pieces_tokenText_append hfound, spansFrom_token]
    -- The place is within the token at the head, or the rest of the text has it.
    by_cases hinside : byteSize front < byteSize (tokenText found)
    · refine ⟨_, List.mem_cons_self, Nat.le_add_right .., ?_⟩
      exact Nat.add_lt_add_left hinside offset
    · rw [List.append_assoc] at hsplit
      have hle := Nat.le_of_not_lt hinside
      obtain ⟨between, rfl, hafter⟩ := exists_append_of_byteSize_le hle hsplit
      rw [← List.append_assoc] at hafter
      obtain ⟨t, ht, hspan⟩ := ih _ hafter
      rw [byteSize_append, ← Nat.add_assoc]
      exact ⟨t, List.mem_cons_of_mem _ ht, hspan⟩

/-! ### Gaps -/

/-- The gaps that spans leave in a text: in front of the first, between two, and behind the last. -/
def gapsFrom (offset size : Nat) : List TokenSpan → List (Nat × Nat)
  | [] => [(offset, size)]
  | t :: rest => (offset, t.start) :: gapsFrom t.stop size rest

/-- What stands in a gap stands in front of each span or behind it. -/
theorem apart_of_mem_gapsFrom {size : Nat} {gap : Nat × Nat}
    (hordered : spans.Pairwise fun t u => t.stop ≤ u.start)
    (hlong : ∀ t ∈ spans, offset ≤ t.start ∧ t.start ≤ t.stop)
    (h : gap ∈ gapsFrom offset size spans) :
    offset ≤ gap.1 ∧ ∀ t ∈ spans, gap.2 ≤ t.start ∨ t.stop ≤ gap.1 := by
  induction spans generalizing offset with
  | nil =>
    rw [gapsFrom, List.mem_singleton] at h
    subst h
    exact ⟨Nat.le_refl _, nofun⟩
  | cons t rest ih =>
    obtain ⟨hbehind, hordered⟩ := List.pairwise_cons.mp hordered
    obtain ⟨hfrom, hstop⟩ := hlong t List.mem_cons_self
    -- The gap in front of the first span, or one of those behind it.
    rcases List.mem_cons.mp h with rfl | h
    · refine ⟨Nat.le_refl _, fun u hu => .inl ?_⟩
      rcases List.mem_cons.mp hu with rfl | hu
      · exact Nat.le_refl _
      · exact Nat.le_trans hstop (hbehind u hu)
    · obtain ⟨hge, hapart⟩ := ih hordered
        (fun u hu => ⟨hbehind u hu, (hlong u (List.mem_cons_of_mem _ hu)).2⟩) h
      refine ⟨by omega, fun u hu => ?_⟩
      rcases List.mem_cons.mp hu with rfl | hu
      · exact .inr hge
      · exact hapart u hu

/-! ### Tokens that are looked up -/

/-- The text of a piece that is a token. -/
def tokenOf? : Piece → Option String
  | .char _ => none
  | .token letters => some (String.ofList (tokenText letters))

/-- The spans are those of the tokens among the pieces, in order. -/
theorem map_text_spansFrom (offset : Nat) (ps : List Piece) :
    (spansFrom offset ps).map TokenSpan.text = ps.filterMap tokenOf? := by
  induction ps generalizing offset with
  | nil => rfl
  | cons p rest ih =>
    cases p with
    | char c => exact ih _
    | token letters =>
      rw [spansFrom_token, List.map_cons, ih]
      rfl

/-- The texts of the spans are those of the tokens. -/
theorem exists_span_iff {text : String} :
    (∃ t ∈ tokenSpans s, t.text = text) ↔
      ∃ letters, .token letters ∈ pieces s ∧ text = String.ofList (tokenText letters) := by
  rw [← List.mem_map, tokenSpans, map_text_spansFrom, List.mem_filterMap]
  constructor
  · rintro ⟨p, hp, htext⟩
    cases p with
    | char c => cases htext
    | token letters =>
      cases htext
      exact ⟨letters, hp, rfl⟩
  · rintro ⟨letters, hmem, rfl⟩
    exact ⟨_, hmem, rfl⟩

/-- A pass that goes through has found a value for what stands in each span. -/
theorem contains_of_substitute {table : Table} {out : List Char}
    (hpass : substitute table s = .ok out) (ht : t ∈ tokenSpans s) :
    table.contains t.text = true := by
  obtain ⟨letters, hmem, htext⟩ := exists_span_iff.mp ⟨t, ht, rfl⟩
  rw [htext]
  exact (substitute_ok hpass).1 letters hmem

/-- A pass that stops at a name stops at what stands in a span. -/
theorem exists_span_of_unregistered {table : Table} {token : String}
    (hstop : substitute table s = .error (.unregistered token)) :
    ∃ t ∈ tokenSpans s, t.text = token ∧ table.contains token = false := by
  obtain ⟨letters, hmem, hnone, rfl⟩ := substitute_unregistered hstop
  obtain ⟨t, ht, htext⟩ := exists_span_iff.mpr ⟨letters, hmem, rfl⟩
  exact ⟨t, ht, htext, Option.isSome_eq_false_iff.mpr (Option.isNone_iff_eq_none.mpr hnone)⟩

/-! ### Parts of a text -/

/-- A part of a text stands between two offsets in bytes. -/
def StandsAt (text part : String) (start stop : Nat) : Prop :=
  ∃ front behind, text = front ++ part ++ behind ∧
    start = front.utf8ByteSize ∧ stop = (front ++ part).utf8ByteSize

variable {text part : String} {start stop : Nat}

/-- It starts and stops between characters. -/
theorem StandsAt.isValid (h : StandsAt text part start stop) :
    String.Pos.Raw.IsValid text ⟨start⟩ ∧ String.Pos.Raw.IsValid text ⟨stop⟩ := by
  obtain ⟨front, behind, rfl, rfl, rfl⟩ := h
  rw [String.Pos.Raw.isValid_iff_exists_append, String.Pos.Raw.isValid_iff_exists_append]
  exact ⟨⟨front, part ++ behind, String.append_assoc, rfl⟩, ⟨front ++ part, behind, rfl, rfl⟩⟩

/-- A part stands between the bytes in front of it and those up to its end. -/
theorem standsAt_iff :
    StandsAt text part start stop ↔ ∃ front behind, text.toList = front ++ part.toList ++ behind ∧
      start = byteSize front ∧ stop = byteSize (front ++ part.toList) := by
  constructor
  · rintro ⟨front, behind, rfl, rfl, rfl⟩
    refine ⟨front.toList, behind.toList, by simp, (byteSize_toList front).symm, ?_⟩
    rw [← String.toList_append, byteSize_toList]
  · rintro ⟨front, behind, htext, rfl, rfl⟩
    refine ⟨String.ofList front, String.ofList behind, ?_, rfl, ?_⟩
    · rw [← String.toList_inj]
      simp [htext]
    · rw [← byteSize_toList]
      simp

/-- At one place of a text stands one name. -/
theorem StandsAt.name_unique {part' : String} {stop' : Nat} (h : StandsAt text part start stop)
    (h' : StandsAt text part' start stop') (hname : isName part.toList = true)
    (hname' : isName part'.toList = true) : part = part' ∧ stop = stop' := by
  obtain ⟨front, behind, hsplit, rfl, rfl⟩ := standsAt_iff.mp h
  obtain ⟨front', behind', hsplit', hsize, rfl⟩ := standsAt_iff.mp h'
  obtain ⟨letters, hletters, hpart⟩ := isName_iff.mp hname
  obtain ⟨letters', hletters', hpart'⟩ := isName_iff.mp hname'
  rw [hsplit, List.append_assoc, List.append_assoc] at hsplit'
  obtain ⟨rfl, hrest⟩ := append_inj_of_byteSize hsize hsplit'
  rw [hpart, hpart'] at hrest
  obtain ⟨rfl, -⟩ := tokenText_append_inj hletters hletters' hrest
  have hsame : part = part' := String.toList_inj.mp (hpart.trans hpart'.symm)
  exact ⟨hsame, by rw [hsame]⟩

/-- In a span stands its text, and the text is a name. -/
theorem standsAt_of_mem_tokenSpans (h : t ∈ tokenSpans text.toList) :
    StandsAt text t.text t.start t.stop ∧ isName t.text.toList = true := by
  obtain ⟨front, letters, behind, hletters, hsplit, rfl⟩ := exists_split_of_mem_spansFrom h
  have hlist : (String.ofList (tokenText letters)).toList = tokenText letters :=
    String.toList_ofList
  refine ⟨standsAt_iff.mpr ⟨front, behind, ?_, ?_, ?_⟩, isName_iff.mpr ⟨letters, hletters, hlist⟩⟩
  · rw [hlist]
    exact hsplit
  · exact Nat.zero_add _
  · rw [hlist]
    exact Nat.zero_add _

/-- A name that stands in a text starts within a span. -/
theorem StandsAt.exists_span (h : StandsAt text part start stop)
    (hname : isName part.toList = true) :
    ∃ t ∈ tokenSpans text.toList, t.start ≤ start ∧ start < t.stop := by
  obtain ⟨front, behind, hsplit, rfl, -⟩ := standsAt_iff.mp h
  obtain ⟨letters, hletters, hpart⟩ := isName_iff.mp hname
  rw [hpart] at hsplit
  obtain ⟨t, ht, hspan⟩ := exists_span_of_split 0 hletters hsplit
  rw [Nat.zero_add] at hspan
  exact ⟨t, ht, hspan⟩

/-- A name is not empty. -/
theorem StandsAt.start_lt_stop (h : StandsAt text part start stop)
    (hname : isName part.toList = true) : start < stop := by
  obtain ⟨front, behind, -, rfl, rfl⟩ := standsAt_iff.mp h
  obtain ⟨letters, -, hpart⟩ := isName_iff.mp hname
  have hpos : 1 ≤ byteSize (tokenText letters) := one_le_byteSize (by simp [tokenText])
  rw [hpart, byteSize_append]
  omega

/-- No span is empty. -/
theorem start_lt_stop_of_mem_tokenSpans (h : t ∈ tokenSpans text.toList) : t.start < t.stop := by
  obtain ⟨hstands, hname⟩ := standsAt_of_mem_tokenSpans h
  exact hstands.start_lt_stop hname

/-- Spans start one behind the other. -/
theorem pairwise_tokenSpans (text : String) :
    (tokenSpans text.toList).Pairwise fun t u => t.start < u.start ∧ t.stop ≤ u.start := by
  refine (pairwise_spansFrom 0 _).imp_of_mem fun ht _ hle => ?_
  exact ⟨Nat.lt_of_lt_of_le (start_lt_stop_of_mem_tokenSpans ht) hle, hle⟩

/-- No name stands in a gap. -/
theorem StandsAt.isName_eq_false {gap : Nat × Nat} (h : StandsAt text part start stop)
    (hgap : gap ∈ gapsFrom 0 text.utf8ByteSize (tokenSpans text.toList))
    (hstart : gap.1 ≤ start) (hstop : stop ≤ gap.2) : isName part.toList = false := by
  by_contra hname
  rw [Bool.not_eq_false] at hname
  obtain ⟨t, ht, hle, hlt⟩ := h.exists_span hname
  have hpos := h.start_lt_stop hname
  have hlong : ∀ t ∈ tokenSpans text.toList, 0 ≤ t.start ∧ t.start ≤ t.stop := fun t ht =>
    ⟨Nat.zero_le _, Nat.le_of_lt (start_lt_stop_of_mem_tokenSpans ht)⟩
  rcases (apart_of_mem_gapsFrom (pairwise_spansFrom 0 _) hlong hgap).2 t ht with hbefore | hbehind
  · omega
  · omega

/-! ### Names and texts with tokens -/

/-- A text has a token if some part of it is a name. -/
theorem hasToken_iff_standsAt :
    hasToken text.toList = true ↔
      ∃ part start stop, StandsAt text part start stop ∧ isName part.toList = true := by
  constructor
  · intro h
    obtain ⟨front, letters, behind, hfirst⟩ := exists_firstToken h
    refine ⟨String.ofList (tokenText letters), _, _, standsAt_iff.mpr ⟨front, behind, ?_, rfl, rfl⟩,
      isName_iff.mpr ⟨letters, hfirst.isToken, String.toList_ofList⟩⟩
    rw [String.toList_ofList]
    exact hfirst.split
  · rintro ⟨part, start, stop, hstands, hname⟩
    obtain ⟨front, behind, hsplit, -, -⟩ := standsAt_iff.mp hstands
    obtain ⟨letters, hletters, hpart⟩ := isName_iff.mp hname
    by_contra hnone
    rw [hpart] at hsplit
    have hfree : TokenFree text.toList := tokenFree_iff_hasToken.mpr (by simpa using hnone)
    exact hfree front letters behind hletters hsplit

/-- A text has a token exactly if it has a span. -/
theorem hasToken_iff_tokenSpans_ne_nil :
    hasToken text.toList = true ↔ tokenSpans text.toList ≠ [] := by
  constructor
  · intro h hnil
    obtain ⟨part, start, stop, hstands, hname⟩ := hasToken_iff_standsAt.mp h
    obtain ⟨t, ht, -⟩ := hstands.exists_span hname
    rw [hnil] at ht
    cases ht
  · intro h
    obtain ⟨t, ht⟩ := List.exists_mem_of_ne_nil _ h
    obtain ⟨hstands, hname⟩ := standsAt_of_mem_tokenSpans ht
    exact hasToken_iff_standsAt.mpr ⟨_, _, _, hstands, hname⟩

/-- A name is a text whose one span is the whole of it. -/
theorem isName_iff_tokenSpans_eq :
    isName text.toList = true ↔ tokenSpans text.toList = [⟨0, text.utf8ByteSize, text⟩] := by
  constructor
  · intro h
    obtain ⟨letters, hletters, htext⟩ := isName_iff.mp h
    have hpieces : pieces text.toList = [.token letters] := by
      have hcut := pieces_tokenText_append hletters []
      rwa [List.append_nil, ← htext, pieces_nil] at hcut
    rw [tokenSpans, hpieces, spansFrom_token, ← htext, byteSize_toList, String.ofList_toList,
      Nat.zero_add]
    rfl
  · intro h
    have hmem : ⟨0, text.utf8ByteSize, text⟩ ∈ tokenSpans text.toList := by
      rw [h]
      exact List.mem_cons_self
    exact (standsAt_of_mem_tokenSpans hmem).2

/-- A table takes the names of tokens, and no others. -/
theorem exists_insert_iff {table : Table} {name value : String} :
    (∃ table', table.insert name value = .ok table') ↔ isName name.toList = true := by
  by_cases h : isName name.toList = true <;> simp [Table.insert, h]

/-- What the spans of a text are: between characters, one behind the other, and a name stands in
each. A name that stands elsewhere in the text starts within one of them, and so none is in a
gap. -/
structure ShowsTokens (text : String) (spans : List TokenSpan) : Prop where
  stands : ∀ t ∈ spans, StandsAt text t.text t.start t.stop
  valid : ∀ t ∈ spans,
    String.Pos.Raw.IsValid text ⟨t.start⟩ ∧ String.Pos.Raw.IsValid text ⟨t.stop⟩
  named : ∀ t ∈ spans, isName t.text.toList = true
  ordered : spans.Pairwise fun t u => t.start < u.start ∧ t.stop ≤ u.start
  leftmost : ∀ part start stop, StandsAt text part start stop → isName part.toList = true →
    ∃ t ∈ spans, t.start ≤ start ∧ start < t.stop
  gapless : ∀ gap ∈ gapsFrom 0 text.utf8ByteSize spans, ∀ part start stop,
    StandsAt text part start stop → gap.1 ≤ start → stop ≤ gap.2 → isName part.toList = false

/-- The spans of a text show its tokens. -/
theorem showsTokens_tokenSpans (text : String) : ShowsTokens text (tokenSpans text.toList) where
  stands _ ht := (standsAt_of_mem_tokenSpans ht).1
  valid _ ht := (standsAt_of_mem_tokenSpans ht).1.isValid
  named _ ht := (standsAt_of_mem_tokenSpans ht).2
  ordered := pairwise_tokenSpans text
  leftmost _ _ _ hstands := hstands.exists_span
  gapless _ hgap _ _ _ hstands := hstands.isName_eq_false hgap

variable {other : List TokenSpan} {u : TokenSpan}

/-- A span ends before the next one starts. -/
theorem ShowsTokens.stop_le (h : ShowsTokens text spans) (ht : t ∈ spans) (hu : u ∈ spans)
    (hlt : t.start < u.start) : t.stop ≤ u.start := by
  obtain ⟨i, hi, rfl⟩ := List.getElem_of_mem ht
  obtain ⟨j, hj, rfl⟩ := List.getElem_of_mem hu
  have hordered := List.pairwise_iff_getElem.mp h.ordered
  rcases Nat.lt_trichotomy i j with hij | rfl | hji
  · exact (hordered i j hi hj hij).2
  · exact absurd hlt (Nat.lt_irrefl _)
  · exact absurd hlt (Nat.lt_asymm (hordered j i hj hi hji).1)

/-- A span is among others that show the tokens, if those in front of it are common to both. -/
theorem ShowsTokens.mem_of_common (h : ShowsTokens text spans) (h' : ShowsTokens text other)
    (hcommon : ∀ u ∈ other, u.start < t.start → u ∈ spans) (ht : t ∈ spans) : t ∈ other := by
  obtain ⟨u, hu, hle, hlt⟩ := h'.leftmost _ _ _ (h.stands t ht) (h.named t ht)
  rcases Nat.lt_or_eq_of_le hle with hbefore | hstart
  · -- A common span in front would have stopped before this one starts.
    have hstop := h.stop_le (hcommon u hu hbefore) ht hbefore
    omega
  · have hstands := h'.stands u hu
    rw [hstart] at hstands
    obtain ⟨htext, hstop⟩ := hstands.name_unique (h.stands t ht) (h'.named u hu) (h.named t ht)
    cases t
    cases u
    cases hstart
    cases htext
    cases hstop
    exact hu

/-- Place by place, the same spans start in both lists. -/
theorem ShowsTokens.mem_iff (h : ShowsTokens text spans) (h' : ShowsTokens text other) :
    t ∈ spans ↔ t ∈ other := by
  induction hn : t.start using Nat.strongRecOn generalizing t with
  | ind n ih =>
    subst hn
    exact ⟨h.mem_of_common h' fun u hu hlt => (ih _ hlt rfl).mpr hu,
      h'.mem_of_common h fun u hu hlt => (ih _ hlt rfl).mp hu⟩

/-- So the spans of a text are determined. -/
theorem ShowsTokens.unique (h : ShowsTokens text spans) (h' : ShowsTokens text other) :
    spans = other := by
  have hirrefl : Std.Irrefl fun t u : TokenSpan => t.start < u.start :=
    ⟨fun _ => Nat.lt_irrefl _⟩
  have hantisymm : Std.Antisymm fun t u : TokenSpan => t.start < u.start :=
    ⟨fun _ _ hlt hgt => absurd hgt (Nat.lt_asymm hlt)⟩
  have hordered : spans.Pairwise fun t u => t.start < u.start := h.ordered.imp And.left
  have hordered' : other.Pairwise fun t u => t.start < u.start := h'.ordered.imp And.left
  exact hordered.eq_of_mem_iff hordered' fun _ => h.mem_iff h'

/-! ### One notion -/

/-- A text shows its tokens in its spans, and in no others. It has a token if some part of it is a
name. It can be registered if it is a name, which is to say that its one span is the whole of it;
and what a pass looks up is what stands in the spans. -/
theorem tokenSpans_by_names (text : String) :
    (∀ spans, ShowsTokens text spans ↔ spans = tokenSpans text.toList) ∧
    (hasToken text.toList = true ↔
      ∃ part start stop, StandsAt text part start stop ∧ isName part.toList = true) ∧
    (hasToken text.toList = true ↔ tokenSpans text.toList ≠ []) ∧
    (isName text.toList = true ↔ tokenSpans text.toList = [⟨0, text.utf8ByteSize, text⟩]) ∧
    ∀ table : Table,
      (∀ value, (∃ table', table.insert text value = .ok table') ↔ isName text.toList = true) ∧
      (∀ out, substitute table text.toList = .ok out →
        ∀ t ∈ tokenSpans text.toList, table.contains t.text = true) ∧
      ∀ token, substitute table text.toList = .error (.unregistered token) →
        ∃ t ∈ tokenSpans text.toList, t.text = token ∧ table.contains token = false := by
  refine ⟨fun spans => ⟨fun h => h.unique (showsTokens_tokenSpans text), ?_⟩,
    hasToken_iff_standsAt, hasToken_iff_tokenSpans_ne_nil, isName_iff_tokenSpans_eq,
    fun table => ⟨fun value => exists_insert_iff, ?_, ?_⟩⟩
  · rintro rfl
    exact showsTokens_tokenSpans text
  · intro out hpass t ht
    exact contains_of_substitute hpass ht
  · intro token hstop
    exact exists_span_of_unregistered hstop

/-- A table with one name. -/
def oneName : Table :=
  Table.empty.put "@LEFT@" "x" (by decide +kernel)

/-- A token ends at its second sign, which starts no other one. Behind it, and behind a character of
two bytes, is one that is not registered. -/
theorem tokenSpans_sharedSign :
    tokenSpans "@LEFT@RIGHT@é@NEXT@".toList = [⟨0, 6, "@LEFT@"⟩, ⟨14, 20, "@NEXT@"⟩] ∧
      ShowsTokens "@LEFT@RIGHT@é@NEXT@" [⟨0, 6, "@LEFT@"⟩, ⟨14, 20, "@NEXT@"⟩] ∧
      isName "RIGHT@é".toList = false ∧
      (∃ t ∈ tokenSpans "@LEFT@RIGHT@é@NEXT@".toList,
        t.text = "@NEXT@" ∧ oneName.contains "@NEXT@" = false) ∧
      oneName.contains "@LEFT@" = true := by
  have hspans : tokenSpans "@LEFT@RIGHT@é@NEXT@".toList =
      [⟨0, 6, "@LEFT@"⟩, ⟨14, 20, "@NEXT@"⟩] := by
    decide +kernel
  obtain ⟨hshows, -, -, -, htable⟩ := tokenSpans_by_names "@LEFT@RIGHT@é@NEXT@"
  obtain ⟨-, -, hmissing⟩ := htable oneName
  obtain ⟨-, -, -, -, htable'⟩ := tokenSpans_by_names "@LEFT@é"
  obtain ⟨-, hfound, -⟩ := htable' oneName
  have hgap := (hshows _).mpr hspans.symm
  refine ⟨hspans, hgap, ?_, hmissing _ (by decide +kernel), ?_⟩
  · exact hgap.gapless (6, 14) (by decide +kernel) "RIGHT@é" 6 14
      ⟨"@LEFT@", "@NEXT@", rfl, rfl, rfl⟩ (Nat.le_refl _) (Nat.le_refl _)
  · exact hfound "xé".toList (by decide +kernel) ⟨0, 6, "@LEFT@"⟩ (by decide +kernel)

end ModBuild.Proofs.Template
