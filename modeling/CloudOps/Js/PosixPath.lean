import Mathlib.Data.List.Basic
import Mathlib.Data.List.Infix
import Mathlib.Data.List.TakeWhile
import Mathlib.Tactic.Common

namespace CloudOps.Js.PosixPath

-- Paths as Node's `path.posix` takes them apart: at every slash.
abbrev Segment := List Char

def dot : Segment := ['.']
def dotdot : Segment := ['.', '.']

def segments (path : List Char) : List Segment := path.splitOn '/'

def ofSegments (names : List Segment) : List Char := ['/'].intercalate names

def isAbsolute (path : List Char) : Bool := path.head? = some '/'

-- One segment of a path that is made normal, beside those kept so far, the last one first.
def push (allowAboveRoot : Bool) (kept : List Segment) (segment : Segment) : List Segment :=
  if segment = [] ∨ segment = dot then kept
  else if segment = dotdot then
    match kept with
    | [] => if allowAboveRoot then [dotdot] else []
    | last :: rest => if last ≠ dotdot then rest else if allowAboveRoot then dotdot :: kept else kept
  else segment :: kept

def keptSegments (path : List Char) : List Segment :=
  ((segments path).foldl (push !isAbsolute path) []).reverse

-- path.normalize
def normalize (path : List Char) : List Char :=
  let trailing := if path.getLast? = some '/' then ['/'] else []
  let text := ofSegments (keptSegments path)
  if path = [] then dot
  else if text = [] then (if isAbsolute path then ['/'] else dot ++ trailing)
  else (if isAbsolute path then ['/'] else []) ++ text ++ trailing

-- path.join
def join (parts : List (List Char)) : List Char :=
  normalize (ofSegments (parts.filter fun part => part ≠ []))

-- path.extname: from the last dot of the last segment, unless that dot begins it.
def extname (path : List Char) : List Char :=
  let name := ((path.reverse.dropWhile (· = '/')).takeWhile (· ≠ '/')).reverse
  let after := (name.reverse.takeWhile (· ≠ '.')).reverse
  let before := name.take (name.length - after.length - 1)
  if '.' ∉ name ∨ before = [] ∨ name = dotdot then [] else '.' :: after

example : normalize "a//./b/../c/".toList = "a/c/".toList := by decide
example : normalize "../../a/..".toList = "../..".toList := by decide
example : join ["/srv/files".toList, [], "../x".toList] = "/srv/x".toList := by decide
example : extname "a.b/c.tar.gz".toList = ".gz".toList ∧ extname ".bashrc".toList = [] ∧ extname "a.".toList = ['.'] := by
  decide

section Locations

-- A place in a tree of directories: the names on the way to it, its own first.
abbrev Location := List Segment

def step (place : Location) (segment : Segment) : Location :=
  if segment = [] ∨ segment = dot then place else if segment = dotdot then place.tail else segment :: place

-- Where a path leads from a working directory.
def locate (cwd : Location) (path : List Char) : Location :=
  (segments path).foldl step (if isAbsolute path then [] else cwd)

-- The places at which a path comes to a name, in their order.
def waypoints : Location → List Segment → List Location
  | _, [] => []
  | place, segment :: rest =>
      if segment = [] ∨ segment = dot ∨ segment = dotdot then waypoints (step place segment) rest
      else step place segment :: waypoints (step place segment) rest

-- The place is the directory or lies in it.
def Inside (directory place : Location) : Prop := directory <:+ place

-- A segment that stands for a name.
structure IsName (segment : Segment) : Prop where
  ne_nil : segment ≠ []
  ne_dot : segment ≠ dot
  ne_dotdot : segment ≠ dotdot
  no_slash : '/' ∉ segment

theorem step_name {segment : Segment} (place : Location) (h : IsName segment) : step place segment = segment :: place := by
  simp [step, h.ne_nil, h.ne_dot, h.ne_dotdot]

theorem step_dotdot (place : Location) : step place dotdot = place.tail := by
  simp [step, dotdot, dot]

theorem step_skip {segment : Segment} (place : Location) (h : segment = [] ∨ segment = dot) :
    step place segment = place := if_pos h

theorem push_skip (allowAboveRoot : Bool) (kept : List Segment) {segment : Segment} (h : segment = [] ∨ segment = dot) :
    push allowAboveRoot kept segment = kept := by
  simp [push, h]

theorem push_name (allowAboveRoot : Bool) (kept : List Segment) {segment : Segment} (h : IsName segment) :
    push allowAboveRoot kept segment = segment :: kept := by
  simp [push, h.ne_nil, h.ne_dot, h.ne_dotdot]

theorem push_dotdot_nil (allowAboveRoot : Bool) :
    push allowAboveRoot [] dotdot = if allowAboveRoot then [dotdot] else [] := by
  simp [push, dotdot, dot]

theorem push_dotdot_cons (allowAboveRoot : Bool) (last : Segment) (rest : List Segment) :
    push allowAboveRoot (last :: rest) dotdot =
      if last ≠ dotdot then rest else if allowAboveRoot then dotdot :: last :: rest else last :: rest := by
  simp [push, dotdot, dot]

-- What has been kept of a path, and the place it has led to: so many steps up, which only
-- a relative path takes, and names from there.
structure Kept (absolute : Bool) (start : Location) (kept : List Segment) (names : List Segment) (ups : Nat) : Prop where
  kept_eq : kept = names ++ List.replicate ups dotdot
  names : ∀ segment ∈ names, IsName segment
  absolute : absolute = true → ups = 0 ∧ start = []

-- Pushing a segment is taking a step.
theorem Kept.pushed {absolute : Bool} {start : Location} {kept names : List Segment} {ups : Nat} {segment : Segment}
    (h : Kept absolute start kept names ups) (hslash : '/' ∉ segment) :
    ∃ names' ups', Kept absolute start (push (!absolute) kept segment) names' ups' ∧
      names' ++ start.drop ups' = step (names ++ start.drop ups) segment := by
  obtain ⟨rfl, hnames, habsolute⟩ := h
  by_cases hskip : segment = [] ∨ segment = dot
  · refine ⟨names, ups, ⟨push_skip _ _ hskip, hnames, habsolute⟩, (step_skip _ hskip).symm⟩
  · by_cases hup : segment = dotdot
    · subst hup
      cases names with
      | nil =>
          cases absolute with
          | true =>
              obtain ⟨rfl, rfl⟩ := habsolute rfl
              exact ⟨[], 0, ⟨by simp [push_dotdot_nil], nofun, fun _ => ⟨rfl, rfl⟩⟩, by simp [step_dotdot]⟩
          | false =>
              refine ⟨[], ups + 1, ⟨?_, nofun, nofun⟩, by simp [step_dotdot]⟩
              cases ups with
              | zero => simp [push_dotdot_nil]
              | succ ups => simp [List.replicate_succ, push_dotdot_cons]
      | cons last names =>
          have hlast := (hnames last List.mem_cons_self).ne_dotdot
          refine ⟨names, ups, ⟨?_, fun name hname => hnames name (List.mem_cons_of_mem _ hname), habsolute⟩, ?_⟩
          · rw [List.cons_append, push_dotdot_cons, if_pos hlast]
          · rw [step_dotdot, List.cons_append, List.tail_cons]
    · have hname : IsName segment := ⟨fun he => hskip (.inl he), fun he => hskip (.inr he), hup, hslash⟩
      refine ⟨segment :: names, ups, ⟨?_, ?_, habsolute⟩, (step_name _ hname).symm⟩
      · rw [push_name _ _ hname, List.cons_append]
      · exact List.forall_mem_cons.mpr ⟨hname, hnames⟩

theorem Kept.run {absolute : Bool} {start : Location} (path : List Segment) (hslash : ∀ segment ∈ path, '/' ∉ segment)
    {kept names : List Segment} {ups : Nat} (h : Kept absolute start kept names ups) :
    ∃ names' ups', Kept absolute start (path.foldl (push !absolute) kept) names' ups' ∧
      names' ++ start.drop ups' = path.foldl step (names ++ start.drop ups) := by
  induction path generalizing kept names ups with
  | nil => exact ⟨names, ups, h, rfl⟩
  | cons segment path ih =>
      obtain ⟨names', ups', hkept, hplace⟩ := h.pushed (hslash segment List.mem_cons_self)
      obtain ⟨names'', ups'', hkept', hplace'⟩ :=
        ih (fun other hother => hslash other (List.mem_cons_of_mem _ hother)) hkept
      exact ⟨names'', ups'', hkept', by rw [hplace', hplace]; rfl⟩

theorem no_slash_of_mem {path : List Char} {segment : Segment} (h : segment ∈ segments path) : '/' ∉ segment := by
  induction path generalizing segment with
  | nil =>
      rw [segments, List.splitOn_nil, List.mem_singleton] at h
      exact h ▸ List.not_mem_nil
  | cons c path ih =>
      rw [segments, List.splitOn_cons_eq_if_modifyHead] at h
      split at h
      · rcases List.mem_cons.mp h with rfl | hlater
        · exact List.not_mem_nil
        · exact ih hlater
      · rename_i hc
        cases hsplit : path.splitOn '/' with
        | nil => exact absurd hsplit (List.splitOn_ne_nil _ _)
        | cons first later =>
            rw [hsplit, List.modifyHead_cons] at h
            rcases List.mem_cons.mp h with rfl | hlater
            · have hfirst : '/' ∉ first := ih (by rw [segments, hsplit]; exact List.mem_cons_self)
              have hne : '/' ≠ c := fun he => hc (by rw [he, BEq.rfl])
              exact fun hin => (List.mem_cons.mp hin).elim hne hfirst
            · exact ih (by rw [segments, hsplit]; exact List.mem_cons_of_mem _ hlater)

-- Where a path leads, by what normalizing keeps of it.
theorem exists_kept (cwd : Location) (path : List Char) :
    ∃ names ups, Kept (isAbsolute path) (if isAbsolute path then [] else cwd) (keptSegments path).reverse names ups ∧
      locate cwd path = names ++ (if isAbsolute path then [] else cwd).drop ups := by
  have hempty : Kept (isAbsolute path) (if isAbsolute path then [] else cwd) [] [] 0 :=
    ⟨rfl, nofun, fun h => ⟨rfl, if_pos h⟩⟩
  obtain ⟨names, ups, hkept, hplace⟩ := hempty.run (segments path) fun _ => no_slash_of_mem
  refine ⟨names, ups, by rwa [keptSegments, List.reverse_reverse], ?_⟩
  rw [hplace, locate, List.drop_zero, List.nil_append]

theorem foldl_kept {absolute : Bool} {start : Location} {kept names : List Segment} {ups : Nat}
    (h : Kept absolute start kept names ups) (place : Location) :
    kept.reverse.foldl step place = names ++ place.drop ups := by
  obtain ⟨rfl, hnames, -⟩ := h
  have hups : ∀ (ups : Nat) (place : Location), (List.replicate ups dotdot).foldl step place = place.drop ups := by
    intro ups
    induction ups with
    | zero => exact fun _ => rfl
    | succ ups ih =>
        intro place
        rw [List.replicate_succ, List.foldl_cons, ih, step_dotdot, List.drop_tail]
  rw [List.reverse_append, List.reverse_replicate, List.foldl_append, hups]
  induction names with
  | nil => rfl
  | cons name names ih =>
      rw [List.reverse_cons, List.foldl_append, ih fun other hother => hnames other (List.mem_cons_of_mem _ hother)]
      exact step_name _ (hnames name List.mem_cons_self)

theorem segments_append (first second : List Char) :
    segments (first ++ '/' :: second) = segments first ++ segments second :=
  List.splitOn_append_cons_self first second

theorem segments_ofSegments {names : List Segment} (hslash : ∀ name ∈ names, '/' ∉ name) (hne : names ≠ []) :
    segments (ofSegments names) = names :=
  List.splitOn_intercalate '/' hslash hne

@[simp] theorem segments_nil : segments [] = [[]] := List.splitOn_nil '/'

theorem segments_slash (path : List Char) : segments ('/' :: path) = [] :: segments path :=
  segments_append [] path

theorem segments_append_slash (path : List Char) : segments (path ++ ['/']) = segments path ++ [[]] :=
  segments_append path []

theorem exists_segments_of_absolute {path : List Char} (h : isAbsolute path = true) :
    ∃ rest, segments path = [] :: rest := by
  cases path with
  | nil => cases h
  | cons c path =>
      obtain rfl : c = '/' := by simpa [isAbsolute] using h
      exact ⟨_, segments_slash path⟩

theorem foldl_step_nil {skipped : List Segment} (h : ∀ segment ∈ skipped, segment = []) (place : Location) :
    skipped.foldl step place = place := by
  induction skipped with
  | nil => rfl
  | cons segment rest ih =>
      obtain ⟨hfirst, hrest⟩ := List.forall_mem_cons.mp h
      rw [List.foldl_cons, step_skip place (.inl hfirst), ih hrest]

theorem mem_keptSegments {path : List Char} {segment : Segment} (h : segment ∈ keptSegments path) :
    segment ≠ [] ∧ '/' ∉ segment := by
  obtain ⟨names, ups, hkept, -⟩ := exists_kept [] path
  rw [← List.mem_reverse, hkept.kept_eq, List.mem_append] at h
  rcases h with hname | hup
  · exact ⟨(hkept.names _ hname).ne_nil, (hkept.names _ hname).no_slash⟩
  · obtain rfl := List.eq_of_mem_replicate hup
    decide

theorem normalize_of_nil {path : List Char} (hne : path ≠ []) (h : keptSegments path = []) :
    normalize path = if isAbsolute path then ['/'] else dot ++ if path.getLast? = some '/' then ['/'] else [] := by
  simp only [normalize, if_neg hne, h]
  rfl

section Kept

variable {path : List Char} (hkept : keptSegments path ≠ [])
include hkept

theorem segments_kept : segments (ofSegments (keptSegments path)) = keptSegments path :=
  segments_ofSegments (fun _ hmem => (mem_keptSegments hmem).2) hkept

theorem ofSegments_kept_ne_nil : ofSegments (keptSegments path) ≠ [] := by
  intro hnil
  have hsegments := segments_kept hkept
  rw [hnil, segments_nil] at hsegments
  exact (mem_keptSegments (hsegments ▸ List.mem_singleton_self [])).1 rfl

theorem normalize_of_ne_nil :
    normalize path = (if isAbsolute path then ['/'] else []) ++ ofSegments (keptSegments path) ++
      if path.getLast? = some '/' then ['/'] else [] := by
  have hne : path ≠ [] := fun hnil => hkept (by rw [hnil]; rfl)
  simp only [normalize, if_neg hne, if_neg (ofSegments_kept_ne_nil hkept)]

-- The segments of a normal path are those kept, but for empty ones at the ends.
theorem segments_normalize : ∃ before after, (∀ segment ∈ before, segment = []) ∧ (∀ segment ∈ after, segment = []) ∧
    (isAbsolute path = false → before = []) ∧
      segments (normalize path) = before ++ keptSegments path ++ after := by
  have htrailing : ∀ text : List Char, ∃ after, (∀ segment ∈ after, segment = []) ∧
      segments (text ++ if path.getLast? = some '/' then ['/'] else []) = segments text ++ after := by
    intro text
    split
    · exact ⟨[[]], by simp, segments_append_slash text⟩
    · exact ⟨[], by simp, by rw [List.append_nil, List.append_nil]⟩
  rw [normalize_of_ne_nil hkept]
  obtain ⟨after, hempty, htext⟩ := htrailing ((if isAbsolute path then ['/'] else []) ++ ofSegments (keptSegments path))
  rw [htext]
  cases isAbsolute path with
  | true =>
      refine ⟨[[]], after, by simp, hempty, fun hfalse => absurd hfalse (by decide), ?_⟩
      rw [if_pos rfl, List.singleton_append, segments_slash, segments_kept hkept, List.singleton_append]
  | false =>
      refine ⟨[], after, by simp, hempty, fun _ => rfl, ?_⟩
      rw [if_neg Bool.false_ne_true, List.nil_append, segments_kept hkept, List.nil_append]

theorem getLast?_normalize (h : path.getLast? ≠ some '/') : (normalize path).getLast? ≠ some '/' := by
  rw [normalize_of_ne_nil hkept, if_neg h, List.append_nil,
    List.getLast?_append_of_ne_nil _ (ofSegments_kept_ne_nil hkept)]
  intro hlast
  obtain ⟨text, hslash⟩ := List.getLast?_eq_some_iff.mp hlast
  have hsegments := segments_kept hkept
  rw [hslash, segments_append_slash] at hsegments
  exact (mem_keptSegments (hsegments ▸ List.mem_append_right _ (List.mem_singleton_self []))).1 rfl

end Kept

-- A normal path leads where its kept segments lead, from the root if the path itself does.
theorem normalize_leads (path : List Char) (place : Location) :
    isAbsolute (normalize path) = isAbsolute path ∧
      (segments (normalize path)).foldl step place = (keptSegments path).foldl step place := by
  by_cases hnil : keptSegments path = []
  · by_cases hempty : path = []
    · subst hempty
      exact ⟨rfl, rfl⟩
    · rw [normalize_of_nil hempty hnil, hnil]
      cases isAbsolute path with
      | true => exact ⟨rfl, rfl⟩
      | false =>
          rw [if_neg Bool.false_ne_true]
          split <;> exact ⟨rfl, rfl⟩
  · obtain ⟨before, after, hbefore, hafter, hrelative, hsegments⟩ := segments_normalize hnil
    refine ⟨?_, by rw [hsegments, List.foldl_append, List.foldl_append, foldl_step_nil hafter, foldl_step_nil hbefore]⟩
    cases habsolute : isAbsolute path with
    | true =>
        rw [normalize_of_ne_nil hnil, habsolute]
        rfl
    | false =>
        refine Bool.eq_false_iff.mpr fun hslash => ?_
        obtain ⟨rest, hrest⟩ := exists_segments_of_absolute hslash
        obtain ⟨first, later, hkept⟩ := List.exists_cons_of_ne_nil hnil
        rw [hsegments, hrelative habsolute, List.nil_append, hkept, List.cons_append] at hrest
        have hmem : first ∈ keptSegments path := hkept ▸ List.mem_cons_self
        exact (mem_keptSegments hmem).1 (List.cons.inj hrest).1

theorem locate_normalize (cwd : Location) (path : List Char) : locate cwd (normalize path) = locate cwd path := by
  obtain ⟨names, ups, hkept, hplace⟩ := exists_kept cwd path
  obtain ⟨habsolute, hleads⟩ := normalize_leads path (if isAbsolute path then [] else cwd)
  rw [locate, habsolute, hleads, hplace, ← foldl_kept hkept, List.reverse_reverse]

-- A joined path leads where the second one leads from the place the first one leads to.
theorem locate_join (cwd : Location) (first : List Char) {second : List Char} (h : isAbsolute second = false) :
    locate cwd (join [first, second]) = locate (locate cwd first) second := by
  rw [join, locate_normalize]
  by_cases hfirst : first = []
  · subst hfirst
    by_cases hsecond : second = []
    · subst hsecond
      rfl
    · have hparts : [[], second].filter (fun part => part ≠ []) = [second] := by simp [hsecond]
      rw [hparts, ofSegments, List.intercalate_singleton]
      rfl
  · by_cases hsecond : second = []
    · subst hsecond
      have hparts : [first, []].filter (fun part => part ≠ []) = [first] := by simp [hfirst]
      rw [hparts, ofSegments, List.intercalate_singleton]
      rfl
    · have hparts : [first, second].filter (fun part => part ≠ []) = [first, second] := by simp [hfirst, hsecond]
      have hjoined : ofSegments [first, second] = first ++ '/' :: second := by simp [ofSegments]
      have habsolute : isAbsolute (first ++ '/' :: second) = isAbsolute first := by
        obtain ⟨c, rest, rfl⟩ := List.exists_cons_of_ne_nil hfirst
        rfl
      rw [hparts, hjoined, locate, locate, locate, habsolute, segments_append, List.foldl_append, h]
      rfl

-- A relative path that does not begin with `..` once normal leads no further up.
theorem inside_of_normal {path : List Char} (habsolute : isAbsolute (normalize path) = false)
    (hup : ¬ dotdot <+: normalize path) (directory : Location) : Inside directory (locate directory path) := by
  obtain ⟨names, ups, hkept, hplace⟩ := exists_kept directory path
  rw [(normalize_leads path directory).1] at habsolute
  rw [habsolute, if_neg Bool.false_ne_true] at hplace
  cases ups with
  | zero => exact hplace ▸ List.suffix_append names directory
  | succ ups =>
      -- the first segment kept is a step up, and the normal path begins with it
      exfalso
      have hfirst : keptSegments path = dotdot :: (List.replicate ups dotdot ++ names.reverse) := by
        rw [← List.reverse_reverse (keptSegments path), hkept.kept_eq, List.reverse_append, List.reverse_replicate]
        rfl
      have hne : keptSegments path ≠ [] := by rw [hfirst]; exact List.cons_ne_nil _ _
      rw [normalize_of_ne_nil hne, habsolute, if_neg Bool.false_ne_true, List.nil_append, hfirst] at hup
      refine hup ?_
      cases List.replicate ups dotdot ++ names.reverse with
      | nil => exact List.prefix_append dotdot _
      | cons second later =>
          rw [ofSegments, List.intercalate_cons_cons, List.append_assoc, List.append_assoc]
          exact List.prefix_append dotdot _

section Waypoints

variable {place waypoint : Location}

theorem waypoints_append (first second : List Segment) (place : Location) :
    waypoints place (first ++ second) = waypoints place first ++ waypoints (first.foldl step place) second := by
  induction first generalizing place with
  | nil => rfl
  | cons segment rest ih =>
      rw [List.cons_append, waypoints, waypoints, ih, List.foldl_cons]
      split <;> rfl

theorem waypoints_eq_nil {path : List Segment}
    (h : ∀ segment ∈ path, segment = [] ∨ segment = dot ∨ segment = dotdot) (place : Location) :
    waypoints place path = [] := by
  induction path generalizing place with
  | nil => rfl
  | cons segment rest ih =>
      obtain ⟨hfirst, hrest⟩ := List.forall_mem_cons.mp h
      rw [waypoints, if_pos hfirst, ih hrest]

-- Names lead on from each other.
theorem suffix_of_mem_waypoints {names : List Segment} (hnames : ∀ segment ∈ names, IsName segment)
    (h : waypoint ∈ waypoints place names) : waypoint <:+ names.foldl step place := by
  have hstart : ∀ {names : List Segment} (place : Location), (∀ segment ∈ names, IsName segment) →
      place <:+ names.foldl step place := by
    intro names
    induction names with
    | nil => exact fun place _ => List.suffix_refl place
    | cons name rest ih =>
        intro place hnames
        obtain ⟨hname, hrest⟩ := List.forall_mem_cons.mp hnames
        rw [List.foldl_cons, step_name _ hname]
        exact (List.suffix_cons name place).trans (ih _ hrest)
  induction names generalizing place with
  | nil => exact absurd h List.not_mem_nil
  | cons name rest ih =>
      obtain ⟨hname, hrest⟩ := List.forall_mem_cons.mp hnames
      have hplain : ¬ (name = [] ∨ name = dot ∨ name = dotdot) := by
        simp [hname.ne_nil, hname.ne_dot, hname.ne_dotdot]
      rw [waypoints, if_neg hplain] at h
      rw [List.foldl_cons]
      rcases List.mem_cons.mp h with rfl | hlater
      · exact hstart _ hrest
      · exact ih hrest hlater

-- What a normal path comes to lies on the way to where it leads.
theorem suffix_of_normal {path : List Char} (hnormal : normalize path = path)
    (h : waypoint ∈ waypoints place (segments path)) : waypoint <:+ (segments path).foldl step place := by
  by_cases hnil : keptSegments path = []
  · have hempty : waypoints place (segments path) = [] := by
      have hpath : path ≠ [] := by
        rintro rfl
        exact absurd hnormal (by decide)
      rw [← hnormal, normalize_of_nil hpath hnil]
      refine waypoints_eq_nil ?_ place
      split
      · decide
      · split <;> decide
    rw [hempty] at h
    exact absurd h List.not_mem_nil
  · obtain ⟨before, after, hskipped, hempty, -, hsegments⟩ := segments_normalize hnil
    obtain ⟨names, ups, hkept, -⟩ := exists_kept [] path
    have hparts : keptSegments path = List.replicate ups dotdot ++ names.reverse := by
      rw [← List.reverse_reverse (keptSegments path), hkept.kept_eq, List.reverse_append, List.reverse_replicate]
    have hnames : ∀ segment ∈ names.reverse, IsName segment := fun segment hmem =>
      hkept.names segment (List.mem_reverse.mp hmem)
    rw [hnormal, hparts, List.append_assoc, List.append_assoc] at hsegments
    have hbefore : ∀ place, waypoints place before = [] :=
      waypoints_eq_nil fun segment hmem => .inl (hskipped segment hmem)
    have hafter : ∀ place, waypoints place after = [] :=
      waypoints_eq_nil fun segment hmem => .inl (hempty segment hmem)
    have hups : ∀ place, waypoints place (List.replicate ups dotdot) = [] :=
      waypoints_eq_nil fun segment hmem => .inr (.inr (List.eq_of_mem_replicate hmem))
    rw [hsegments, waypoints_append, waypoints_append, waypoints_append, hbefore, hups, hafter, List.nil_append,
      List.nil_append, List.append_nil] at h
    rw [hsegments, List.foldl_append, List.foldl_append, List.foldl_append, foldl_step_nil hempty]
    exact suffix_of_mem_waypoints hnames h

end Waypoints

section Names

variable {name : List Char}

theorem segments_name (h : '/' ∉ name) : segments name = [name] := List.splitOn_eq_singleton h

theorem isAbsolute_name (h : IsName name) : isAbsolute name = false := by
  obtain ⟨c, rest, rfl⟩ := List.exists_cons_of_ne_nil h.ne_nil
  have hc : c ≠ '/' := fun he => h.no_slash (he ▸ List.mem_cons_self)
  simpa [isAbsolute] using hc

theorem normalize_name (h : IsName name) : normalize name = name := by
  have hkept : keptSegments name = [name] := by
    rw [keptSegments, segments_name h.no_slash, List.foldl_cons, push_name _ _ h]
    rfl
  have hlast : name.getLast? ≠ some '/' := fun hlast => h.no_slash (List.mem_of_getLast? hlast)
  rw [normalize_of_ne_nil (by rw [hkept]; exact List.cons_ne_nil _ _), isAbsolute_name h, hkept, if_neg hlast,
    if_neg Bool.false_ne_true, ofSegments, List.intercalate_singleton, List.nil_append, List.append_nil]

theorem locate_name (directory : Location) (h : IsName name) : locate directory name = name :: directory := by
  rw [locate, isAbsolute_name h, if_neg Bool.false_ne_true, segments_name h.no_slash, List.foldl_cons,
    step_name _ h, List.foldl_nil]

-- A name at the end of a joined path is not followed by a slash.
theorem getLast?_join_name (directory : List Char) {name : List Char} (h : IsName name) :
    (join [directory, name]).getLast? ≠ some '/' := by
  have hlast : name.getLast? ≠ some '/' := fun hlast => h.no_slash (List.mem_of_getLast? hlast)
  have hparts : ∃ before, segments (ofSegments ([directory, name].filter fun part => part ≠ [])) = before ++ [name] ∧
      (ofSegments ([directory, name].filter fun part => part ≠ [])).getLast? = name.getLast? := by
    by_cases hempty : directory = []
    · refine ⟨[], ?_⟩
      have hone : [directory, name].filter (fun part => part ≠ []) = [name] := by simp [hempty, h.ne_nil]
      rw [hone, ofSegments, List.intercalate_singleton, segments_name h.no_slash]
      exact ⟨rfl, rfl⟩
    · refine ⟨segments directory, ?_⟩
      have hboth : [directory, name].filter (fun part => part ≠ []) = [directory, name] := by simp [hempty, h.ne_nil]
      have hjoined : ofSegments [directory, name] = directory ++ '/' :: name := by simp [ofSegments]
      rw [hboth, hjoined, segments_append, segments_name h.no_slash]
      refine ⟨rfl, ?_⟩
      obtain ⟨c, rest, rfl⟩ := List.exists_cons_of_ne_nil h.ne_nil
      rw [List.getLast?_append_of_ne_nil _ (List.cons_ne_nil _ _), List.getLast?_cons_cons]
  obtain ⟨before, hsegments, hsame⟩ := hparts
  refine getLast?_normalize ?_ (hsame ▸ hlast)
  rw [keptSegments, hsegments, List.foldl_append, List.foldl_cons, push_name _ _ h, List.foldl_nil, List.reverse_cons]
  simp

theorem no_slash_extname (path : List Char) : '/' ∉ extname path := by
  have hname : ∀ c ∈ ((path.reverse.dropWhile (· = '/')).takeWhile (· ≠ '/')).reverse, c ≠ '/' := fun c hc => by
    simpa using List.mem_takeWhile_imp (List.mem_reverse.mp hc)
  unfold extname
  dsimp only
  split
  · exact List.not_mem_nil
  · intro hmem
    rcases List.mem_cons.mp hmem with heq | hafter
    · exact absurd heq (by decide)
    · have hin := (List.takeWhile_sublist _).mem (List.mem_reverse.mp hafter)
      exact hname _ (List.mem_reverse.mp hin) rfl

end Names

end Locations

end CloudOps.Js.PosixPath
