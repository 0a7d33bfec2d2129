import DonationSite.Cookie
import DonationSite.Proofs.Text.Pieces

/-!
# The first cookie with a name

The value of a cookie is that of the first segment of the cookie text that, trimmed, begins with the
name and an equals sign. Later segments do not matter, whatever the first one amounts to.

## Key results

- `Cookie.lookup_eq_some_iff`: which value is found
-/

namespace DonationSite.Cookie

open Text (split trimChars)

/-- The first segment of a cookie text that gives a cookie with a name a value, as it is written
there. -/
def FirstWritten (text name : String) (written : List Char) : Prop :=
  ∃ before segment after, split ';' text.toList = before ++ segment :: after ∧
    trimChars segment = name.toList ++ '=' :: written ∧
    ∀ other ∈ before, ∀ w, trimChars other ≠ name.toList ++ '=' :: w

variable {text name value : String} {segment written : List Char}

/-- A segment is a cookie with a name exactly if it begins with the name and an equals sign. -/
theorem ofSegment_eq_some_iff (hname : '=' ∉ name.toList) :
    ofSegment? segment = some ⟨name.toList, written⟩ ↔
      trimChars segment = name.toList ++ '=' :: written := by
  rw [ofSegment?, Option.map_eq_some_iff]
  constructor
  -- The segment is cut at its first equals sign.
  · rintro ⟨⟨before, after⟩, hsplit, hcookie⟩
    cases hcookie
    exact (Text.splitFirst_eq_some_iff.1 hsplit).1
  · intro hsegment
    exact ⟨_, Text.splitFirst_eq_some_iff.2 ⟨hsegment, hname⟩, rfl⟩

/-- Whether a segment is a cookie with a name. -/
theorem any_ofSegment_eq_true_iff (hname : '=' ∉ name.toList) :
    (ofSegment? segment).any (·.name = name.toList) = true ↔
      ∃ written, trimChars segment = name.toList ++ '=' :: written := by
  rw [Option.any_eq_true]
  constructor
  · rintro ⟨cookie, hcookie, hnamed⟩
    have heq : cookie = ⟨name.toList, cookie.value⟩ := by
      rw [← of_decide_eq_true hnamed]
    rw [heq] at hcookie
    exact ⟨_, (ofSegment_eq_some_iff hname).1 hcookie⟩
  · rintro ⟨written, hsegment⟩
    exact ⟨_, (ofSegment_eq_some_iff hname).2 hsegment, by simp⟩

/-- The cookie that is found is the first one with the name. -/
theorem find_readAll_eq_some_iff (hname : '=' ∉ name.toList) {cookie : Cookie} :
    (readAll text).find? (·.name = name.toList) = some cookie ↔
      cookie.name = name.toList ∧ FirstWritten text name cookie.value := by
  rw [readAll, List.find?_filterMap, Option.bind_eq_some_iff]
  constructor
  · rintro ⟨segment, hfind, hcookie⟩
    obtain ⟨hfound, before, after, hsegments, hothers⟩ := List.find?_eq_some_iff_append.1 hfind
    obtain ⟨written, hsegment⟩ := (any_ofSegment_eq_true_iff hname).1 hfound
    rw [(ofSegment_eq_some_iff hname).2 hsegment] at hcookie
    cases hcookie
    -- A segment before it with the name would have been found instead.
    refine ⟨rfl, before, segment, after, hsegments, hsegment, fun other hmem w hother => ?_⟩
    have hnot := hothers other hmem
    rw [(any_ofSegment_eq_true_iff hname).2 ⟨w, hother⟩] at hnot
    cases hnot
  · rintro ⟨hnamed, before, segment, after, hsegments, hsegment, hothers⟩
    have heq : cookie = ⟨name.toList, cookie.value⟩ := by rw [← hnamed]
    refine ⟨segment, List.find?_eq_some_iff_append.2 ⟨?_, before, after, hsegments, ?_⟩, ?_⟩
    · exact (any_ofSegment_eq_true_iff hname).2 ⟨_, hsegment⟩
    · intro other hmem
      rw [Bool.not_eq_true', Bool.eq_false_iff, ne_eq, any_ofSegment_eq_true_iff hname]
      rintro ⟨w, hother⟩
      exact hothers other hmem w hother
    · rw [heq]
      exact (ofSegment_eq_some_iff hname).2 hsegment

/-- What is written in the first segment with the name settles what is found. -/
theorem lookup_of_firstWritten (hname : '=' ∉ name.toList) (h : FirstWritten text name written) :
    lookup? text name =
      (Text.Percent.decode? (String.ofList written)).filter (!·.isEmpty) := by
  have hfind : (readAll text).find? (·.name = name.toList) = some ⟨name.toList, written⟩ :=
    (find_readAll_eq_some_iff hname).2 ⟨rfl, h⟩
  rw [lookup?, hfind, Option.bind_some, decode?]

/-- The value of a cookie is what its first segment stands for, unless that is empty or no text. -/
theorem lookup_eq_some_iff (hname : '=' ∉ name.toList) :
    lookup? text name = some value ↔
      ∃ written, FirstWritten text name written ∧
        Text.Percent.decode? (String.ofList written) = some value ∧ value ≠ "" := by
  constructor
  · intro hlookup
    -- An empty value is dropped after it was decoded.
    rw [lookup?, Option.filter_eq_some_iff, Option.bind_eq_some_iff] at hlookup
    obtain ⟨⟨cookie, hfind, hdecode⟩, hvalue⟩ := hlookup
    exact ⟨_, ((find_readAll_eq_some_iff hname).1 hfind).2, hdecode, by simpa using hvalue⟩
  · rintro ⟨written, hfirst, hdecode, hvalue⟩
    rw [lookup_of_firstWritten hname hfirst, hdecode]
    simp [Option.filter, hvalue]

end DonationSite.Cookie
