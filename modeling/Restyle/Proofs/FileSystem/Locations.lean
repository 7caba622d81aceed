import Restyle.FileSystem
import Mathlib.Tactic.Common

set_option autoImplicit false

/-! # Where paths lead

In a file system without links a path leads to one location, whatever stands there: its segments are
followed one after the other from where it starts (`FileSystem.locate`). Reading and writing go to that
location (`FileSystem.of_find`, `FileSystem.of_target`), and a write changes what stands there and nothing
else (`FileSystem.of_writeText`).

Paths with different components may lead to the same location, since a `.` in front is a component and
leads nowhere, a `..` takes a name back, and a path may start at the root or not. Paths that start alike
and have no `..` do not (`FileSystem.components_eq_of_locate_eq`).
-/

namespace Restyle

namespace FileSystem

variable {fs : FileSystem}

/-- Where a path leads, if its directories are there. -/
def locate (fs : FileSystem) (path : String) : Location :=
  (Path.segments path).foldl follow (fs.start path)

/-! ## Finding and writing -/

theorem of_walk {segments : List String} {location found : Location} {entry : Entry}
    (h : fs.walk location segments = .ok (found, entry)) :
    found = segments.foldl follow location ∧ fs.entryAt found = some entry := by
  induction segments generalizing location with
  | nil =>
      rw [walk] at h
      split at h
      · rename_i hentry
        cases h
        exact ⟨rfl, hentry⟩
      · cases h
  | cons segment rest ih =>
      rw [walk] at h
      split at h
      · split at h
        · cases h
        · exact ih h
      · cases h
      · cases h

/-- What is found at the end of a path stands where the path leads. -/
theorem of_find {path : String} {found : Location} {entry : Entry}
    (h : fs.find path = .ok (found, entry)) :
    found = fs.locate path ∧ fs.entryAt found = some entry := by
  rw [find] at h
  split at h
  · cases h
  · exact of_walk h

theorem follow_name {segment : String} (hempty : segment ≠ "") (hhere : segment ≠ ".")
    (hparent : segment ≠ "..") (location : Location) :
    follow location segment = location ++ [segment] := by
  simp [follow, hempty, hhere, hparent]

/-- If no empty segment stands at the end of a list, none is dropped from there. -/
theorem eq_append_of_dropWhile {segments before : List String} {last : String}
    (hend : ¬ segments.getLast? = some "")
    (h : segments.reverse.dropWhile (· = "") = last :: before) :
    last ≠ "" ∧ segments = before.reverse ++ [last] := by
  cases hreverse : segments.reverse with
  | nil =>
      rw [hreverse] at h
      cases h
  | cons final rest =>
      rw [← List.head?_reverse, hreverse, List.head?_cons, Option.some.injEq] at hend
      rw [hreverse, List.dropWhile_cons_of_neg (by simpa using hend)] at h
      cases h
      refine ⟨hend, ?_⟩
      rw [← List.reverse_cons, ← hreverse, List.reverse_reverse]

/-- A file is written where its path leads, and never at the root. -/
theorem of_target {path : String} {location : Location} (h : fs.target path = .ok location) :
    location = fs.locate path ∧ location ≠ [] := by
  rw [target] at h
  split at h
  · cases h
  split at h
  · cases h
  rename_i last before hsegments
  split at h
  · cases h
  · cases h
  rename_i directory hdirectory
  split at h
  · cases h
  rename_i hname
  split at h
  · cases h
  split at h
  · cases h
  cases h
  simp only [not_or] at hname
  obtain ⟨hhere, hparent, hend⟩ := hname
  obtain ⟨hempty, hall⟩ := eq_append_of_dropWhile hend hsegments
  refine ⟨?_, by simp⟩
  rw [locate, hall, List.foldl_append, List.foldl_cons, List.foldl_nil, ← (of_walk hdirectory).1,
    follow_name hempty hhere hparent]

/-! ## What a write changes -/

theorem lookup_filter_of_ne {location other : Location} (h : other ≠ location)
    (entries : List (Location × Entry)) :
    (entries.filter (·.1 != location)).lookup other = entries.lookup other := by
  induction entries with
  | nil => rfl
  | cons first rest ih =>
      obtain ⟨place, entry⟩ := first
      by_cases hplace : place = location
      · have hother : (other == place) = false := by
          rw [hplace]
          simpa using h
        rw [List.filter_cons_of_neg (by simp [hplace]), ih, List.lookup_cons, hother]
      · rw [List.filter_cons_of_pos (by simpa using hplace), List.lookup_cons, List.lookup_cons, ih]

theorem entryAt_put_self {location : Location} (h : location ≠ []) (entry : Entry) :
    entryAt (fs.put location entry) location = some entry := by
  rw [entryAt, if_neg h]
  exact List.lookup_cons_self

theorem entryAt_put_of_ne {location other : Location} (h : other ≠ location) (entry : Entry) :
    entryAt (fs.put location entry) other = fs.entryAt other := by
  have hother : (other == location) = false := by simpa using h
  rw [entryAt, entryAt]
  split
  · rfl
  · show List.lookup other ((location, entry) :: fs.entries.filter (·.1 != location)) = _
    rw [List.lookup_cons, hother]
    exact lookup_filter_of_ne h fs.entries

/-- **A write changes one file.** It stands where the path leads, and it holds the text. -/
theorem of_writeText {path text : String} {after : FileSystem}
    (h : fs.writeText path text = .ok after) :
    after.entryAt (fs.locate path) = some (.file text.toUTF8) ∧
      ∀ other, other ≠ fs.locate path → after.entryAt other = fs.entryAt other := by
  rw [writeText] at h
  cases htarget : fs.target path with
  | error fault =>
      rw [htarget] at h
      cases h
  | ok location =>
      rw [htarget] at h
      cases h
      obtain ⟨rfl, hroot⟩ := of_target htarget
      exact ⟨entryAt_put_self hroot _, fun other hother => entryAt_put_of_ne hother _⟩

/-! ## Paths that start alike -/

/-- The names among the segments of a path. -/
def namesOf (segments : List String) : List String :=
  segments.filter fun segment => ¬ (segment = "" ∨ segment = ".")

theorem namesOf_cons_of_skipped {segment : String} (h : segment = "" ∨ segment = ".")
    (rest : List String) : namesOf (segment :: rest) = namesOf rest :=
  List.filter_cons_of_neg (by simpa only [decide_eq_true_eq, not_not] using h)

theorem namesOf_cons_of_name {segment : String} (h : ¬ (segment = "" ∨ segment = "."))
    (rest : List String) : namesOf (segment :: rest) = segment :: namesOf rest :=
  List.filter_cons_of_pos (by simpa only [decide_eq_true_eq] using h)

/-- Without `..`, segments lead down along their names. -/
theorem foldl_follow {segments : List String} (h : ".." ∉ segments) (location : Location) :
    segments.foldl follow location = location ++ namesOf segments := by
  induction segments generalizing location with
  | nil => simp [namesOf]
  | cons segment rest ih =>
      rw [List.mem_cons, not_or] at h
      rw [List.foldl_cons, ih h.2]
      by_cases hskip : segment = "" ∨ segment = "."
      · rw [namesOf_cons_of_skipped hskip, follow, if_pos hskip]
      · rw [namesOf_cons_of_name hskip, follow, if_neg hskip, if_neg (Ne.symm h.1),
          List.append_assoc]
        rfl

/-- Without `..`, the components of segments are their names. -/
theorem filterMap_component? {segments : List String} (h : ".." ∉ segments) :
    segments.filterMap Path.component? = (namesOf segments).map .named := by
  induction segments with
  | nil => rfl
  | cons segment rest ih =>
      rw [List.mem_cons, not_or] at h
      by_cases hskip : segment = "" ∨ segment = "."
      · have hnone : Path.component? segment = none := if_pos hskip
        rw [List.filterMap_cons_none hnone, ih h.2, namesOf_cons_of_skipped hskip]
      · have hname : Path.component? segment = some (.named segment) := by
          rw [Path.component?, if_neg hskip, if_neg (Ne.symm h.1)]
        rw [List.filterMap_cons_some hname, ih h.2, namesOf_cons_of_name hskip, List.map_cons]

theorem isAbsolute_iff (path : String) :
    Path.isAbsolute path = true ↔ Path.leading? path = some .root := by
  rw [Path.leading?]
  by_cases habsolute : Path.isAbsolute path = true
  · simp [habsolute]
  · simp [habsolute]

/-- Paths that start alike start at the same location. -/
theorem start_eq {first second : String} (h : Path.leading? first = Path.leading? second) :
    fs.start first = fs.start second := by
  have habsolute : Path.isAbsolute first = Path.isAbsolute second := by
    rw [Bool.eq_iff_iff, isAbsolute_iff, isAbsolute_iff, h]
  rw [start, start, habsolute]

/-- **Paths that start alike and do not go back are the same if they lead to the same location.** -/
theorem components_eq_of_locate_eq {first second : String}
    (hstart : Path.leading? first = Path.leading? second) (hfirst : ".." ∉ Path.segments first)
    (hsecond : ".." ∉ Path.segments second) (h : fs.locate first = fs.locate second) :
    Path.components first = Path.components second := by
  have hnames : namesOf (Path.segments first) = namesOf (Path.segments second) := by
    rw [locate, locate, foldl_follow hfirst, foldl_follow hsecond, start_eq hstart] at h
    exact List.append_cancel_left h
  rw [Path.components, Path.components, hstart, filterMap_component? hfirst,
    filterMap_component? hsecond, hnames]

end FileSystem

end Restyle
