import ActionDispatch.Proofs.Template.Rewriting

/-!
# Templates and their segments

The segments of a template are the one way to split it such that no text is empty, no two texts
stand side by side, every body is as short as it can be, and no text has an interpolation in it: one
that opens in the last text is never closed. Nothing but filters and the markup of an XML document
changes the segments, so a template with neither stays as it is.
-/

set_option autoImplicit false

namespace ActionDispatch.Template
open Text

variable {body before rest name s t : List Char} {parts : List Segment} {part : Segment}

/-- The brace behind a body closes it, whatever follows, and no brace in the body does. -/
structure Shortest (body : List Char) : Prop where
  closes : ∀ rest, closing? 0 .code (body ++ '\x7d' :: rest) = some (body, rest)
  first : ∀ front, front ++ ['\x7d'] <+: body → ¬Closed front

theorem shortest_iff : Shortest body ↔ Closed body := by
  refine ⟨fun h => (closing_iff.mp (h.closes [])).2,
    fun h => ⟨fun rest => closing_iff.mpr ⟨rfl, h⟩, ?_⟩⟩
  rintro front ⟨back, rfl⟩ hfront
  have hwhole : closing? 0 .code (front ++ ['\x7d'] ++ back ++ ['\x7d']) =
      some (front ++ ['\x7d'] ++ back, []) := closing_iff.mpr ⟨rfl, h⟩
  have hearly : closing? 0 .code (front ++ ['\x7d'] ++ back ++ ['\x7d']) =
      some (front, back ++ ['\x7d']) := closing_iff.mpr ⟨by simp, hfront⟩
  have hsame := hearly.symm.trans hwhole
  simp at hsame

def Unclosed (s : List Char) : Prop :=
  ∀ before body rest, s = before ++ (Segment.interpolation body).source ++ rest →
    Quiet before → ¬Closed body

theorem next_none_iff : next? s = none ↔ Unclosed s := by
  constructor
  · rintro hnone before body rest rfl hquiet hclosed
    rw [next_found hquiet hclosed rest] at hnone
    cases hnone
  · intro h
    cases hnext : next? s with
    | none => rfl
    | some found =>
      obtain ⟨before, body, rest⟩ := found
      obtain ⟨hs, hquiet, hclosed⟩ := of_next hnext
      exact absurd hclosed (h before body rest hs hquiet)

theorem quiet_unclosed (h : Quiet s) : Unclosed s := by
  rintro before body rest rfl - -
  exact h ⟨before, body ++ '\x7d' :: rest, by simp [interpolation_source]⟩

def Segment.isText : Segment → Bool
  | .text _ => true
  | .interpolation _ => false

/-- Segments into which no template can be split in any other way. An interpolation opens in none of
their texts but the last segment, and there no brace closes it. -/
structure Split (parts : List Segment) : Prop where
  filled : ∀ t, .text t ∈ parts → t ≠ []
  apart : parts.IsChain fun part next => ¬(part.isText = true ∧ next.isText = true)
  shortest : ∀ body, .interpolation body ∈ parts → Shortest body
  quiet : ∀ t, .text t ∈ parts.dropLast → Quiet t
  unclosed : ∀ t, .text t ∈ parts → Unclosed t

theorem split_nil : Split [] := ⟨nofun, .nil, nofun, nofun, nofun⟩

theorem split_last (hfilled : t ≠ []) (h : Unclosed t) : Split [.text t] := by
  refine ⟨?_, .singleton _, ?_, ?_, ?_⟩ <;> simp [hfilled, h]

theorem split_text (hfilled : t ≠ []) (hquiet : Quiet t)
    (h : Split (.interpolation body :: parts)) :
    Split (.text t :: .interpolation body :: parts) where
  filled := by simpa [hfilled] using h.filled
  apart := List.isChain_cons_cons.mpr ⟨by simp [Segment.isText], h.apart⟩
  shortest := by simpa using h.shortest
  quiet := by simpa [hquiet] using h.quiet
  unclosed := by simpa [quiet_unclosed hquiet] using h.unclosed

theorem split_interpolation (hbody : Shortest body) (h : Split parts) :
    Split (.interpolation body :: parts) where
  filled := by simpa using h.filled
  apart := by
    cases parts with
    | nil => exact .singleton _
    | cons part parts => exact List.isChain_cons_cons.mpr ⟨by simp [Segment.isText], h.apart⟩
  shortest := by simpa [hbody] using h.shortest
  quiet := by
    cases parts with
    | nil => nofun
    | cons part parts => simpa using h.quiet
  unclosed := by simpa using h.unclosed

theorem split_tail (h : Split (part :: parts)) : Split parts where
  filled t ht := h.filled t (List.mem_cons_of_mem _ ht)
  apart := List.IsChain.of_cons h.apart
  shortest body hbody := h.shortest body (List.mem_cons_of_mem _ hbody)
  quiet t ht := by
    cases parts with
    | nil => cases ht
    | cons next parts => exact h.quiet t (List.mem_cons_of_mem _ ht)
  unclosed t ht := h.unclosed t (List.mem_cons_of_mem _ ht)

theorem textSegment_filled (h : t ≠ []) : textSegment t = [.text t] := by
  simpa [textSegment] using h

theorem segments_split (s : List Char) : Split (segments s) := by
  fun_induction segments s with
  | case1 s hnext =>
    unfold textSegment
    split
    next => exact split_nil
    next hs => exact split_last (by simpa using hs) (next_none_iff.mp hnext)
  | case2 s before body rest hnext ih =>
    obtain ⟨-, hquiet, hclosed⟩ := of_next hnext
    have hsplit := split_interpolation (shortest_iff.mpr hclosed) ih
    unfold textSegment
    split
    next => exact hsplit
    next hbefore => exact split_text (by simpa using hbefore) hquiet hsplit

theorem join_segments (s : List Char) : join (segments s) = s := by
  fun_induction segments s with
  | case1 s hnext => exact (text_expanded false s).2
  | case2 s before body rest hnext ih =>
    obtain ⟨hs, -, -⟩ := of_next hnext
    have hrest : join (.interpolation body :: segments rest) =
        (Segment.interpolation body).source ++ join (segments rest) := rfl
    rw [join_append, (text_expanded false before).2, hrest, ih, ← List.append_assoc, ← hs]

/-- What is joined from such segments is split into them again. -/
theorem segments_join : ∀ {parts : List Segment}, Split parts → segments (join parts) = parts
  | [], _ => segments_text rfl
  | [.text t], h => by
    have hnone : next? t = none := next_none_iff.mpr (h.unclosed t (by simp))
    have hjoin : join [.text t] = t := by simp [join, Segment.source]
    rw [hjoin, segments_text hnone, textSegment_filled (h.filled t (by simp))]
  | .text t :: .text u :: _, h => absurd ⟨rfl, rfl⟩ (List.isChain_cons_cons.mp h.apart).1
  | .text t :: .interpolation body :: parts, h => by
    have hquiet : Quiet t := h.quiet t (by simp)
    have hclosed : Closed body := shortest_iff.mp (h.shortest body (by simp))
    have hjoin : join (.text t :: .interpolation body :: parts) =
        t ++ (Segment.interpolation body).source ++ join parts := by simp [join, Segment.source]
    rw [hjoin, segments_found hquiet hclosed, textSegment_filled (h.filled t (by simp)),
      segments_join (split_tail (split_tail h))]
    rfl
  | .interpolation body :: parts, h => by
    have hclosed : Closed body := shortest_iff.mp (h.shortest body (by simp))
    have hfound := segments_found quiet_nil hclosed (join parts)
    rw [segments_join (split_tail h)] at hfound
    exact hfound

def Filtered (body : List Char) : Prop :=
  ∃ expr name, body = expr ++ '|' :: name ∧ expr.getLast? ≠ some '|' ∧
    (trim name = "text".toList ∨ trim name = "e".toList)

theorem filtered_iff : Filtered body ↔ splitFilter? body ≠ none := by
  constructor
  · rintro ⟨expr, name, rfl, hlast, hname⟩
    have hnamed := named_iff.mpr hname
    have hbar : '|' ∉ name := fun h => hnamed (foreign_no_filter (by decide) (by decide) h)
    rw [splitFilter_bar hbar, if_neg hlast, ne_eq, Option.map_eq_none_iff]
    exact hnamed
  · intro h
    obtain hbar | ⟨expr, name, rfl, hbar⟩ := last_bar body
    · exact absurd (unbarred_no_filter hbar) h
    · rw [splitFilter_bar hbar] at h
      split at h
      next => exact absurd rfl h
      next hlast =>
        rw [ne_eq, Option.map_eq_none_iff] at h
        exact ⟨expr, name, rfl, hlast, named_iff.mp h⟩

instance (body : List Char) : Decidable (Filtered body) := decidable_of_iff _ filtered_iff.symm

theorem expanded_unfiltered (h : ¬Filtered body) :
    (Segment.interpolation body).expanded false = .interpolation body := by
  have hnone : splitFilter? body = none := by simpa [filtered_iff] using h
  have hexpand : expand false body = expandFilter body := rfl
  simp only [Segment.expanded, hexpand, expandFilter, hnone]

/-- The segments of a template joined give the template, and they are its only split. Outside of XML
documents, a template without filters stays as it is. -/
theorem segments_lose_nothing (template : String) :
    join (segments template.toList) = template.toList ∧ Split (segments template.toList) ∧
      (∀ parts, join parts = template.toList → Split parts → parts = segments template.toList) ∧
      ∀ xmlEscape, (xmlEscape && isXml template.toList) = false →
        (∀ body, .interpolation body ∈ segments template.toList → ¬Filtered body) →
        preprocess xmlEscape template = template := by
  refine ⟨join_segments _, segments_split _, fun parts hjoin hsplit => ?_,
    fun xmlEscape hxml h => ?_⟩
  · rw [← hjoin, segments_join hsplit]
  · have hkept : (segments template.toList).map (Segment.expanded false) =
        segments template.toList := by
      refine (List.map_congr_left fun part hpart => ?_).trans (List.map_id _)
      cases part with
      | text t => rfl
      | interpolation body => exact expanded_unfiltered (h body hpart)
    apply String.toList_injective
    rw [preprocess_toList, hxml, hkept, join_segments]

theorem segments_lose_nothing_bars :
    let raw := "$$\x7bd['\x7d|'] || e\x7d\x7d$\x7ba | f\x7d$\x7bn | text"
    segments raw.toList = [.text ['$'], .interpolation "d['\x7d|'] || e".toList, .text ['\x7d'],
      .interpolation "a | f".toList, .text "$\x7bn | text".toList] ∧ preprocess true raw = raw := by
  intro raw
  have hsegments : segments raw.toList = [.text ['$'], .interpolation "d['\x7d|'] || e".toList,
      .text ['\x7d'], .interpolation "a | f".toList, .text "$\x7bn | text".toList] := by
    have hfirst : next? raw.toList = some (['$'], "d['\x7d|'] || e".toList,
        "\x7d$\x7ba | f\x7d$\x7bn | text".toList) := by decide
    have hsecond : next? "\x7d$\x7ba | f\x7d$\x7bn | text".toList =
        some (['\x7d'], "a | f".toList, "$\x7bn | text".toList) := by decide
    have hlast : next? "$\x7bn | text".toList = none := by decide
    rw [segments_next hfirst, segments_next hsecond, segments_text hlast]
    rfl
  obtain ⟨-, -, -, hkept⟩ := segments_lose_nothing raw
  refine ⟨hsegments, hkept true (by decide) fun body hbody => ?_⟩
  simp only [hsegments, List.mem_cons, reduceCtorEq, Segment.interpolation.injEq, List.not_mem_nil,
    or_false, false_or] at hbody
  rcases hbody with rfl | rfl <;> decide

end ActionDispatch.Template
