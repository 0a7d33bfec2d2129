import DonationSite.Proofs.Cookie
import DonationSite.Proofs.Text.Percent

/-!
# Reading a jar of cookies

A cookie text is a jar of segments that semicolons join. What is found under a key hangs on one
segment alone, the first that has this key, and of that segment on what is left of it once it is
trimmed. An encoded value there is read back; a value that is empty or no text counts as absent, and
the segments after it are not asked.

## Key results

- `FirstWithKey.firstWritten`: the segment is the one that the lookup finds
- `FirstWithKey.lookup_eq`: what the lookup makes of it
- `jar_reads_back`: what is read from a jar, and what makes no difference to it
-/

namespace DonationSite.Cookie

open Text (split trim trimChars)

/-- The cookie text that consists of some segments. -/
def jar (segments : List String) : String :=
  ";".intercalate segments

/-- A segment has a key if that stands before its first equals sign, once it is trimmed. -/
def HasKey (segment key : String) : Prop :=
  ∃ written, trim segment = key ++ "=" ++ written ∧ '=' ∉ key.toList

/-- Among segments without semicolons, one is the first with a key. -/
structure FirstWithKey (segments : List String) (key segment : String) : Prop where
  plain : ∀ other ∈ segments, ';' ∉ other.toList
  hasKey : HasKey segment key
  first : ∃ before after, segments = before ++ segment :: after ∧
    ∀ other ∈ before, ¬HasKey other key

variable {segments : List String} {segment key written : String}

/-! ### Segments -/

/-- A trimmed segment as its list of characters. -/
theorem trim_eq_iff : trim segment = key ++ "=" ++ written ↔
    trimChars segment.toList = key.toList ++ '=' :: written.toList := by
  rw [← String.toList_inj, Text.toList_trim, String.toList_append, String.toList_append,
    List.append_assoc]
  rfl

/-- A segment has a key exactly if it is read as a cookie with this name. That can be computed. -/
theorem hasKey_iff : HasKey segment key ↔
    '=' ∉ key.toList ∧ (ofSegment? segment.toList).any (·.name = key.toList) = true := by
  constructor
  · rintro ⟨written, hsegment, hkey⟩
    exact ⟨hkey, (any_ofSegment_eq_true_iff hkey).2 ⟨_, trim_eq_iff.1 hsegment⟩⟩
  · rintro ⟨hkey, hfound⟩
    obtain ⟨written, hsegment⟩ := (any_ofSegment_eq_true_iff hkey).1 hfound
    refine ⟨String.ofList written, ?_, hkey⟩
    rwa [trim_eq_iff, String.toList_ofList]

instance (segment key : String) : Decidable (HasKey segment key) :=
  decidable_of_iff _ hasKey_iff.symm

/-- A jar is cut into the segments that it was put together from. -/
theorem split_jar (hne : segments ≠ []) (h : ∀ segment ∈ segments, ';' ∉ segment.toList) :
    split ';' (jar segments).toList = segments.map String.toList := by
  have hplain : ∀ piece ∈ segments.map String.toList, ';' ∉ piece := by
    intro piece hmem
    obtain ⟨segment, hsegment, rfl⟩ := List.mem_map.1 hmem
    exact h segment hsegment
  rw [jar, String.toList_intercalate]
  exact Text.split_intercalate (mt List.map_eq_nil_iff.1 hne) hplain

/-! ### The first segment with a key -/

namespace FirstWithKey

/-- The segment is the one whose value the lookup takes. -/
theorem firstWritten (h : FirstWithKey segments key segment)
    (hwritten : trim segment = key ++ "=" ++ written) :
    FirstWritten (jar segments) key written.toList := by
  obtain ⟨-, -, hkey⟩ := h.hasKey
  -- The segments before it are those that do not have the key.
  obtain ⟨before, after, rfl, hbefore⟩ := h.first
  have hne : before ++ segment :: after ≠ [] := by simp
  refine ⟨before.map String.toList, segment.toList, after.map String.toList, ?_,
    trim_eq_iff.1 hwritten, ?_⟩
  · rw [split_jar hne h.plain, List.map_append, List.map_cons]
  · -- A segment before it that began like this would have the key as well.
    intro piece hmem value hvalue
    obtain ⟨other, hother, rfl⟩ := List.mem_map.1 hmem
    apply hbefore other hother
    exact hasKey_iff.2 ⟨hkey, (any_ofSegment_eq_true_iff hkey).2 ⟨value, hvalue⟩⟩

/-- The lookup gives what the text after the key stands for, unless that is empty. -/
theorem lookup_eq (h : FirstWithKey segments key segment)
    (hwritten : trim segment = key ++ "=" ++ written) :
    lookup? (jar segments) key = (Text.Percent.decode? written).filter (!·.isEmpty) := by
  obtain ⟨-, -, hkey⟩ := h.hasKey
  rw [lookup_of_firstWritten hkey (h.firstWritten hwritten), String.ofList_toList]

end FirstWithKey

/-- A jar of cookies is read by its first segment with a key, whatever the other segments are. If
this segment was written with an encoded value, that value is found, except that an empty one counts
as none. If what it has for a value decodes to no text, none is found. And every jar whose first
segment with the key is the same, but for blanks around it, gives the same. -/
theorem jar_reads_back {segments : List String} {key segment : String}
    (h : FirstWithKey segments key segment) :
    (∀ value, trim segment = key ++ "=" ++ Text.Percent.encode value →
      lookup? (jar segments) key = if value = "" then none else some value) ∧
    (∀ written, trim segment = key ++ "=" ++ written → Text.Percent.decode? written = none →
      lookup? (jar segments) key = none) ∧
    ∀ others other, FirstWithKey others key other → trim other = trim segment →
      lookup? (jar others) key = lookup? (jar segments) key := by
  refine ⟨?_, ?_, ?_⟩
  -- An encoded value decodes to itself, and an empty one is dropped.
  · intro value hvalue
    rw [h.lookup_eq hvalue, Text.Percent.decode?_encode]
    by_cases hempty : value = ""
    · rw [if_pos hempty, hempty]
      rfl
    · rw [if_neg hempty]
      simp [Option.filter, hempty]
  -- Here the segment is found, but its value is not.
  · intro written hwritten hnone
    rw [h.lookup_eq hwritten, hnone]
    rfl
  · intro others other hother htrim
    -- Only what is left of the segment once it is trimmed is asked for.
    obtain ⟨written, hwritten, -⟩ := h.hasKey
    rw [h.lookup_eq hwritten, hother.lookup_eq (htrim.trans hwritten)]

/-- A jar in which look-alikes stand around the first segment with the key `token`, which is padded
and holds delimiters. -/
def lookAlikes : List String :=
  ["xtoken=1", " tok=token=2", "token", "\u00a0token=%C5%99%3B%3D\t", "token=later"]

/-- The delimiters are read back. So they are from a jar with that segment alone. -/
theorem jar_reads_back_lookAlikes :
    FirstWithKey lookAlikes "token" "\u00a0token=%C5%99%3B%3D\t" ∧
      Text.Percent.encode "ř;=" = "%C5%99%3B%3D" ∧
      lookup? (jar lookAlikes) "token" = some "ř;=" ∧
      lookup? "token=%C5%99%3B%3D" "token" = some "ř;=" := by
  have hfirst : FirstWithKey lookAlikes "token" "\u00a0token=%C5%99%3B%3D\t" :=
    ⟨by decide, by decide, ["xtoken=1", " tok=token=2", "token"], ["token=later"], rfl, by decide⟩
  have halone : FirstWithKey ["token=%C5%99%3B%3D"] "token" "token=%C5%99%3B%3D" :=
    ⟨by decide, by decide, [], [], rfl, by decide⟩
  have hencode : Text.Percent.encode "ř;=" = "%C5%99%3B%3D" := by decide +kernel
  obtain ⟨hread, -, hsame⟩ := jar_reads_back hfirst
  have hfound : lookup? (jar lookAlikes) "token" = some "ř;=" :=
    hread "ř;=" (by decide +kernel)
  exact ⟨hfirst, hencode, hfound, (hsame _ _ halone (by decide)).trans hfound⟩

/-- A segment that is no text hides the one after it. -/
example : lookup? (jar ["token=%FF", "token=1"]) "token" = none := by decide +kernel

end DonationSite.Cookie
