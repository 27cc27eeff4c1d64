import Mathlib.Data.List.TakeWhile
import OneUnknown.CommandLine.FileTree

/-!
# Places on a path

Where a path leads does not depend on the files: each part leads from one place to another, and the
files only decide whether the path may be followed. So two trees that agree about the places on a
path give the same answers to requests for it.

* `FileTree.Leads`, **`FileTree.entry_cases`**: what is at a place;
* `stepFrom`, `passed`, **`placesOn`**: the places on a path;
* `FileTree.walk_cons`, `FileTree.eq_foldl_of_walk`: following a path;
* `FileTree.SameAt`, **`FileTree.locate_congr`**, `FileTree.target_congr`: trees that agree about
  some places;
* **`FileTree.exists_of_target`**: what a path names.
-/

namespace OneUnknown

namespace FileTree

variable {tree other : FileTree} {here place q : Place} {path : List String}

/-! ## What is at a place -/

/-- Something in the tree is at the place or below it. -/
def Leads (tree : FileTree) (place : Place) : Prop :=
  place = [] ∨ (∃ file ∈ tree.files, place <+: file.1) ∨ ∃ other ∈ tree.directories, place <+: other

theorem entry_of_lookup {content : String} (h : tree.files.lookup place = some content) :
    tree.entry place = .file content := by
  rw [entry, h]

theorem entry_of_leads (h : tree.files.lookup place = none) (hleads : tree.Leads place) :
    tree.entry place = .directory := by
  rw [entry, h]
  refine if_pos ?_
  simpa [Leads, or_assoc] using hleads

theorem entry_of_not_leads (h : tree.files.lookup place = none) (hleads : ¬ tree.Leads place) :
    tree.entry place = .missing := by
  rw [entry, h]
  refine if_neg ?_
  simpa [Leads, or_assoc] using hleads

/-- **What is at a place**: a file if one is kept there, else a directory if something is below. -/
theorem entry_cases (tree : FileTree) (place : Place) :
    (∃ content, tree.files.lookup place = some content ∧ tree.entry place = .file content) ∨
    (tree.files.lookup place = none ∧ tree.Leads place ∧ tree.entry place = .directory) ∨
    (tree.files.lookup place = none ∧ ¬ tree.Leads place ∧ tree.entry place = .missing) := by
  rcases h : tree.files.lookup place with _ | content
  · by_cases hleads : tree.Leads place
    · exact .inr (.inl ⟨rfl, hleads, entry_of_leads h hleads⟩)
    · exact .inr (.inr ⟨rfl, hleads, entry_of_not_leads h hleads⟩)
  · exact .inl ⟨content, rfl, entry_of_lookup h⟩

theorem entry_congr (hfiles : tree.files.lookup q = other.files.lookup q)
    (hleads : tree.Leads q ↔ other.Leads q) : tree.entry q = other.entry q := by
  rcases entry_cases other q with ⟨content, hlookup, hentry⟩ | ⟨hlookup, hother, hentry⟩ |
    ⟨hlookup, hother, hentry⟩
  · rw [hentry, entry_of_lookup (hfiles.trans hlookup)]
  · rw [hentry, entry_of_leads (hfiles.trans hlookup) (hleads.mpr hother)]
  · rw [hentry, entry_of_not_leads (hfiles.trans hlookup) (mt hleads.mp hother)]

theorem lookup_eq_none (h : tree.entry place = .directory ∨ tree.entry place = .missing) :
    tree.files.lookup place = none := by
  rcases entry_cases tree place with ⟨content, -, hentry⟩ | ⟨hlookup, -⟩ | ⟨hlookup, -⟩
  · rw [hentry] at h
    rcases h with h | h <;> cases h
  · exact hlookup
  · exact hlookup

theorem leads_of_above (h : tree.entry place = .directory) (hq : q <+: place) : tree.Leads q := by
  rcases entry_cases tree place with ⟨content, -, hentry⟩ | ⟨-, hleads, -⟩ | ⟨-, -, hentry⟩
  · rw [hentry] at h
    cases h
  · rcases hleads with rfl | ⟨file, hfile, hbelow⟩ | ⟨other, hother, hbelow⟩
    · exact .inl (List.prefix_nil.mp hq)
    · exact .inr (.inl ⟨file, hfile, hq.trans hbelow⟩)
    · exact .inr (.inr ⟨other, hother, hq.trans hbelow⟩)
  · rw [hentry] at h
    cases h

theorem requireDirectory_eq_ok_iff :
    tree.requireDirectory place = .ok () ↔ tree.entry place = .directory := by
  unfold requireDirectory
  split <;> simp_all

/-! ## The places on a path -/

/-- The place that a part leads to. -/
def stepFrom (here : Place) (part : String) : Place :=
  if isIdle part then here else if part = ".." then here.dropLast else here ++ [part]

/-- The places that parts lead to one after the other, and the one that they start from. -/
def passed (here : Place) : List String → List Place
  | [] => [here]
  | part :: rest => here :: passed (stepFrom here part) rest

/-- **The places on a path**, from its start to its end. -/
def placesOn (here : Place) (path : List String) : List Place := passed (start here path) path

theorem mem_passed_self (here : Place) (path : List String) : here ∈ passed here path := by
  cases path <;> exact List.mem_cons_self

theorem passed_append_subset (here : Place) (front back : List String) :
    passed here front ⊆ passed here (front ++ back) := by
  induction front generalizing here with
  | nil =>
    rintro _ (_ | ⟨_, ⟨⟩⟩)
    exact mem_passed_self here back
  | cons part front ih => exact List.cons_subset_cons here (ih _)

theorem foldl_mem_passed (here : Place) (path : List String) :
    path.foldl stepFrom here ∈ passed here path := by
  induction path generalizing here with
  | nil => exact List.mem_singleton_self here
  | cons part path ih => exact List.mem_cons_of_mem _ (ih _)

theorem foldl_mem_passed_append (here : Place) (front back : List String) :
    front.foldl stepFrom here ∈ passed here (front ++ back) :=
  passed_append_subset here front back (foldl_mem_passed here front)

/-! ## Following a path -/

theorem walk_cons (tree : FileTree) (here : Place) (part : String) (rest : List String) :
    tree.walk here (part :: rest) =
      (tree.requireDirectory here).bind fun _ =>
        if isIdle part = false ∧ part ≠ ".." ∧ nameLimit < part.utf8ByteSize then
          .error .nameTooLong
        else tree.walk (stepFrom here part) rest := by
  rw [walk]
  unfold stepFrom
  show (tree.requireDirectory here).bind _ = _
  congr 1
  funext _
  split_ifs <;> simp_all

theorem walk_append (tree : FileTree) (here : Place) (front back : List String) :
    tree.walk here (front ++ back) =
      (tree.walk here front).bind fun place => tree.walk place back := by
  induction front generalizing here with
  | nil => rfl
  | cons part front ih =>
    rw [List.cons_append, walk_cons, walk_cons]
    rcases tree.requireDirectory here with e | _
    · rfl
    · simp only [Except.bind]
      split
      · rfl
      · exact ih _

/-- **A path leads where its parts lead**, if it may be followed. -/
theorem eq_foldl_of_walk (h : tree.walk here path = .ok place) :
    place = path.foldl stepFrom here := by
  induction path generalizing here with
  | nil => exact (Except.ok.inj h).symm
  | cons part path ih =>
    rw [walk_cons] at h
    rcases hdir : tree.requireDirectory here with e | _
    · rw [hdir] at h
      cases h
    · rw [hdir] at h
      simp only [Except.bind] at h
      split at h
      · cases h
      · exact ih h

/-- A path that may be followed in one tree may be followed in another, if those places on it that
are directories in the one are directories in the other. -/
theorem walk_mono
    (hdir : ∀ q ∈ passed here path, tree.entry q = .directory → other.entry q = .directory)
    (h : tree.walk here path = .ok place) : other.walk here path = .ok place := by
  induction path generalizing here with
  | nil => exact h
  | cons part path ih =>
    rw [walk_cons] at h ⊢
    rcases hhere : tree.requireDirectory here with e | _
    · rw [hhere] at h
      cases h
    · rw [requireDirectory_eq_ok_iff.mpr
        (hdir here List.mem_cons_self (requireDirectory_eq_ok_iff.mp hhere))]
      rw [hhere] at h
      simp only [Except.bind] at h ⊢
      split at h
      · cases h
      · rename_i hlength
        rw [if_neg hlength]
        exact ih (fun q hq => hdir q (List.mem_cons_of_mem _ hq)) h

/-! ## Trees that agree -/

/-- The trees have the same at some places. -/
def SameAt (places : List Place) (tree other : FileTree) : Prop :=
  ∀ q ∈ places, tree.entry q = other.entry q

theorem SameAt.mono {fewer more : List Place} (h : SameAt more tree other) (hsub : fewer ⊆ more) :
    SameAt fewer tree other :=
  fun q hq => h q (hsub hq)

theorem requireDirectory_congr (h : tree.entry q = other.entry q) :
    tree.requireDirectory q = other.requireDirectory q := by
  rw [requireDirectory, requireDirectory, h]

theorem walk_congr (h : SameAt (passed here path) tree other) :
    tree.walk here path = other.walk here path := by
  induction path generalizing here with
  | nil => rfl
  | cons part path ih =>
    rw [walk_cons, walk_cons, requireDirectory_congr (h here List.mem_cons_self),
      ih (h.mono (List.subset_cons_self _ _))]

/-- **Trees that agree about the places on a path** agree about where it leads. -/
theorem locate_congr (h : SameAt (placesOn here path) tree other) :
    tree.locate here path = other.locate here path := by
  rw [locate, locate, walk_congr h]

theorem eq_foldl_of_locate (h : tree.locate here path = .ok place) :
    place = path.foldl stepFrom (start here path) := by
  unfold locate at h
  rcases hlength : requireLength path with e | _
  · rw [hlength] at h
    cases h
  · rw [hlength] at h
    exact eq_foldl_of_walk h

theorem locate_mono
    (hdir : ∀ q ∈ placesOn here path, tree.entry q = .directory → other.entry q = .directory)
    (h : tree.locate here path = .ok place) : other.locate here path = .ok place := by
  unfold locate at h ⊢
  rcases hlength : requireLength path with e | _
  · rw [hlength] at h
    cases h
  · rw [hlength] at h
    exact walk_mono hdir h

theorem mem_placesOn_of_locate (h : tree.locate here path = .ok place) :
    place ∈ placesOn here path := by
  rw [eq_foldl_of_locate h]
  exact foldl_mem_passed _ _

theorem read_congr {path : String} (h : SameAt (placesOn here (parts path)) tree other) :
    tree.read here path = other.read here path := by
  unfold read
  rw [locate_congr h]
  rcases hplace : other.locate here (parts path) with e | place
  · rfl
  · simp only [bind, Except.bind, h place (mem_placesOn_of_locate hplace)]

theorem has_congr {path : String} (h : SameAt (placesOn here (parts path)) tree other) :
    tree.has here path = other.has here path := by
  unfold has
  rw [locate_congr h]
  rcases hplace : other.locate here (parts path) with e | place
  · rfl
  · simp only [h place (mem_placesOn_of_locate hplace)]

/-! ## What a path names -/

/-- The parts of a path up to its last name, and what may follow a name: nothing but slashes. -/
theorem exists_of_dropWhile {last : String} {above : List String}
    (h : path.reverse.dropWhile (· = "") = last :: above) :
    ∃ count, path = above.reverse ++ last :: List.replicate count "" ∧ last ≠ "" := by
  have hsplit := List.takeWhile_append_dropWhile (p := (· = "")) (l := path.reverse)
  have hlast : last ≠ "" := by
    have hnot := List.head_dropWhile_not (p := (· = "")) (l := path.reverse) (by simp [h])
    simpa [h] using hnot
  generalize htaken : path.reverse.takeWhile (· = "") = slashes at hsplit
  have hslashes : slashes = List.replicate slashes.length "" := by
    refine List.eq_replicate_of_mem fun part hpart => ?_
    rw [← htaken] at hpart
    simpa using List.mem_takeWhile_imp hpart
  refine ⟨slashes.length, ?_, hlast⟩
  calc path = (slashes ++ last :: above).reverse := by rw [← h, hsplit, List.reverse_reverse]
    _ = above.reverse ++ last :: slashes.reverse := by simp
    _ = above.reverse ++ last :: List.replicate slashes.length "" := by
      rw [← List.reverse_replicate, ← hslashes]

theorem target_congr (h : SameAt (placesOn here path) tree other) :
    tree.target here path = other.target here path := by
  unfold target
  rcases requireLength path with e | _
  · rfl
  · simp only [bind, Except.bind]
    split
    · rfl
    · rename_i last above hlast
      obtain ⟨count, hpath, -⟩ := exists_of_dropWhile hlast
      have hsub : passed (start here path) above.reverse ⊆ placesOn here path := by
        have := passed_append_subset (start here path) above.reverse
          (last :: List.replicate count "")
        rwa [← hpath] at this
      rw [walk_congr (h.mono hsub)]
      rcases hwalk : other.walk (start here path) above.reverse with e | place
      · rfl
      · have hplace := hsub (eq_foldl_of_walk hwalk ▸ foldl_mem_passed _ _)
        simp only [requireDirectory_congr (h place hplace)]

/-- **What a path names**: a name in a directory that the path leads to. -/
theorem exists_of_target {name : String} (h : tree.target here path = .ok (place, some name)) :
    ∃ front count, path = front ++ name :: List.replicate count "" ∧
      requireLength path = .ok () ∧ tree.walk (start here path) front = .ok place ∧
      tree.entry place = .directory ∧ ¬ nameLimit < name.utf8ByteSize ∧
      stepFrom place name = place ++ [name] := by
  unfold target at h
  rcases hlength : requireLength path with e | _
  · rw [hlength] at h
    cases h
  · rw [hlength] at h
    simp only [bind, Except.bind] at h
    split at h
    · cases h
    · rename_i last above hlast
      obtain ⟨count, hpath, hne⟩ := exists_of_dropWhile hlast
      rcases hwalk : tree.walk (start here path) above.reverse with e | found
      · rw [hwalk] at h
        cases h
      · rw [hwalk] at h
        rcases hdir : tree.requireDirectory found with e | _
        · simp only [hdir] at h
          cases h
        · simp only [hdir] at h
          split at h
          · cases h
          · split at h
            · cases h
            · rename_i hdots hlong
              obtain ⟨rfl, rfl⟩ : found = place ∧ last = name := by
                simpa [pure, Except.pure] using h
              refine ⟨above.reverse, count, hpath, rfl, hwalk, requireDirectory_eq_ok_iff.mp hdir,
                hlong, ?_⟩
              rw [not_or] at hdots
              rw [stepFrom, if_neg (by simp [isIdle, hne, hdots.1]), if_neg hdots.2]

theorem locate_of_target {name : String} (h : tree.target here path = .ok (place, some name))
    (hlast : path.getLast? ≠ some "") : tree.locate here path = .ok (place ++ [name]) := by
  obtain ⟨front, count, hpath, hlength, hwalk, hdir, hname, hstep⟩ := exists_of_target h
  have hcount : count = 0 := by
    by_contra hne
    obtain ⟨count, rfl⟩ := Nat.exists_eq_succ_of_ne_zero hne
    rw [hpath, List.replicate_succ', ← List.cons_append, ← List.append_assoc,
      List.getLast?_concat] at hlast
    exact hlast rfl
  rw [hcount, List.replicate_zero] at hpath
  rw [locate, hlength]
  show tree.walk (start here path) path = _
  generalize start here path = first at hwalk ⊢
  rw [hpath, walk_append, hwalk]
  simp only [Except.bind]
  rw [walk_cons, requireDirectory_eq_ok_iff.mpr hdir]
  simp only [Except.bind, hstep]
  rw [if_neg fun hlong => hname hlong.2.2]
  rfl

theorem mem_placesOn_of_target {name : String}
    (h : tree.target here path = .ok (place, some name)) :
    place ++ [name] ∈ placesOn here path := by
  obtain ⟨front, count, hpath, -, hwalk, -, -, hstep⟩ := exists_of_target h
  have hmem := foldl_mem_passed_append (start here path) (front ++ [name])
    (List.replicate count "")
  rw [List.append_assoc, List.singleton_append, ← hpath, List.foldl_append, List.foldl_cons,
    List.foldl_nil, ← eq_foldl_of_walk hwalk, hstep] at hmem
  exact hmem

end FileTree

end OneUnknown
