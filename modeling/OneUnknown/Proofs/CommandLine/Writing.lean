import OneUnknown.Proofs.CommandLine.Places

/-!
# What writing a file changes

Writing a file makes directories on its path and replaces what is at the end of it. Nothing else
changes, and a place away from the path decides nothing.

* `FileTree.entry_put`, `FileTree.exists_of_makeDirectory`: one change;
* **`FileTree.Grows`**: new directories at some places;
* `FileTree.makeDirectories_grows`, **`FileTree.write_ok`**, `FileTree.write_error`,
  `FileTree.entry_write`: what writing changes;
* `FileTree.AgreeOutside`, **`FileTree.write_agree`**: writing in two trees that differ elsewhere.
-/

namespace OneUnknown

namespace FileTree

variable {tree other : FileTree} {here place p q : Place} {path : List String} {content : String}

/-! ## One change -/

theorem lookup_filter (keeps : Place → Bool) (files : List (Place × String)) (q : Place) :
    (files.filter fun file => keeps file.1).lookup q =
      if keeps q then files.lookup q else none := by
  induction files with
  | nil => simp
  | cons file files ih =>
    rw [List.filter_cons, List.lookup_cons]
    by_cases hkeeps : keeps file.1 = true
    · rw [if_pos hkeeps, List.lookup_cons, ih]
      by_cases hq : q = file.1
      · rw [hq, BEq.rfl]
        exact (if_pos hkeeps).symm
      · rw [beq_eq_false_iff_ne.mpr hq]
    · rw [if_neg hkeeps, ih]
      by_cases hq : q = file.1
      · rw [hq, if_neg hkeeps, if_neg hkeeps]
      · rw [beq_eq_false_iff_ne.mpr hq]

theorem lookup_put (tree : FileTree) (place q : Place) (content : String) :
    (tree.put place content).files.lookup q =
      if q = place then some content else tree.files.lookup q := by
  rw [put, List.lookup_cons]
  split_ifs with hq
  · rw [hq, BEq.rfl]
  · rw [beq_eq_false_iff_ne.mpr hq]
    exact (lookup_filter (fun other => other ≠ place) tree.files q).trans (if_pos (by simpa))

/-- Apart from its place, a new file changes nothing: its directory was there before. -/
theorem entry_put {name : String} (hdir : tree.entry place = .directory)
    (hq : q ≠ place ++ [name]) : (tree.put (place ++ [name]) content).entry q = tree.entry q := by
  refine entry_congr (by rw [lookup_put, if_neg hq]) ⟨fun h => ?_, fun h => ?_⟩
  · rcases h with rfl | ⟨file, hfile, hbelow⟩ | h
    · exact .inl rfl
    · rcases List.mem_cons.mp hfile with rfl | hfile
      · exact leads_of_above hdir ((List.prefix_concat_iff.mp hbelow).resolve_left hq)
      · exact .inr (.inl ⟨file, (List.mem_filter.mp hfile).1, hbelow⟩)
    · exact .inr (.inr h)
  · rcases h with rfl | ⟨file, hfile, hbelow⟩ | h
    · exact .inl rfl
    · by_cases hplace : file.1 = place ++ [name]
      · exact .inr (.inl ⟨_, List.mem_cons_self, by rwa [hplace] at hbelow⟩)
      · exact .inr (.inl ⟨file, List.mem_cons_of_mem _ (List.mem_filter.mpr ⟨hfile, by simpa⟩),
          hbelow⟩)
    · exact .inr (.inr h)

theorem entry_put_self (tree : FileTree) (place : Place) (content : String) :
    (tree.put place content).entry place = .file content :=
  entry_of_lookup (by rw [lookup_put, if_pos rfl])

theorem entry_withDirectory {name : String} (hdir : tree.entry place = .directory)
    (hq : q ≠ place ++ [name]) :
    (tree.withDirectory (place ++ [name])).entry q = tree.entry q := by
  refine entry_congr rfl ⟨fun h => ?_, fun h => ?_⟩
  · rcases h with rfl | h | ⟨other, hother, hbelow⟩
    · exact .inl rfl
    · exact .inr (.inl h)
    · rcases List.mem_cons.mp hother with rfl | hother
      · exact leads_of_above hdir ((List.prefix_concat_iff.mp hbelow).resolve_left hq)
      · exact .inr (.inr ⟨other, hother, hbelow⟩)
  · rcases h with rfl | h | ⟨other, hother, hbelow⟩
    · exact .inl rfl
    · exact .inr (.inl h)
    · exact .inr (.inr ⟨other, List.mem_cons_of_mem _ hother, hbelow⟩)

theorem entry_withDirectory_self (h : tree.entry place = .missing) :
    (tree.withDirectory place).entry place = .directory := by
  have hnone : tree.files.lookup place = none := lookup_eq_none (.inr h)
  exact entry_of_leads hnone (.inr (.inr ⟨place, List.mem_cons_self, List.prefix_refl place⟩))

/-- **Making a directory** adds it at a place on its path, where nothing was. -/
theorem exists_of_makeDirectory (h : tree.makeDirectory here path = .ok other) :
    ∃ place name, tree.target here path = .ok (place, some name) ∧
      tree.entry place = .directory ∧ tree.entry (place ++ [name]) = .missing ∧
      other = tree.withDirectory (place ++ [name]) := by
  unfold makeDirectory at h
  rcases htarget : tree.target here path with e | ⟨place, name?⟩
  · rw [htarget] at h
    cases h
  · rw [htarget] at h
    rcases name? with _ | name
    · cases h
    · simp only [bind, Except.bind] at h
      split at h
      · rename_i hmissing
        obtain ⟨-, -, -, -, -, hdir, -⟩ := exists_of_target htarget
        exact ⟨place, name, rfl, hdir, hmissing, (Except.ok.inj h).symm⟩
      · cases h

/-! ## New directories -/

/-- **The tree has grown**: at some places where nothing was there are directories now. -/
structure Grows (places : List Place) (tree other : FileTree) : Prop where
  files : other.files = tree.files
  entry : ∀ q, other.entry q = tree.entry q ∨
    q ∈ places ∧ tree.entry q = .missing ∧ other.entry q = .directory

namespace Grows

variable {places : List Place}

theorem refl (places : List Place) (tree : FileTree) : Grows places tree tree :=
  ⟨rfl, fun _ => .inl rfl⟩

theorem trans {last : FileTree} (h : Grows places tree other) (h' : Grows places other last) :
    Grows places tree last := by
  refine ⟨h'.files.trans h.files, fun q => ?_⟩
  rcases h'.entry q with heq | ⟨hq, hmissing, hdir⟩
  · rw [heq]
    exact h.entry q
  · rcases h.entry q with heq | ⟨-, -, hdir'⟩
    · exact .inr ⟨hq, heq ▸ hmissing, hdir⟩
    · rw [hdir'] at hmissing
      cases hmissing

theorem mono {more : List Place} (h : Grows places tree other) (hsub : places ⊆ more) :
    Grows more tree other :=
  ⟨h.files, fun q => (h.entry q).imp_right fun ⟨hq, hrest⟩ => ⟨hsub hq, hrest⟩⟩

theorem entry_eq (h : Grows places tree other) (hq : q ∉ places) :
    other.entry q = tree.entry q :=
  (h.entry q).resolve_right fun hnew => hq hnew.1

end Grows

theorem ensureDirectory_grows (h : tree.ensureDirectory here path = .ok other) :
    Grows (placesOn here path) tree other := by
  unfold ensureDirectory at h
  split at h
  · rename_i made hmade
    obtain rfl := Except.ok.inj h
    obtain ⟨place, name, htarget, hdir, hmissing, rfl⟩ := exists_of_makeDirectory hmade
    refine ⟨rfl, fun q => ?_⟩
    by_cases hq : q = place ++ [name]
    · subst hq
      exact .inr ⟨mem_placesOn_of_target htarget, hmissing, entry_withDirectory_self hmissing⟩
    · exact .inl (entry_withDirectory hdir hq)
  · split at h
    · obtain rfl := Except.ok.inj h
      exact .refl _ _
    · cases h

theorem placesOn_subset {front : List String} {part : String} (hpart : isIdle part = false)
    (h : front ++ [part] <+: path) : placesOn here (front ++ [part]) ⊆ placesOn here path := by
  obtain ⟨back, rfl⟩ := h
  have hstart : start here (front ++ [part] ++ back) = start here (front ++ [part]) := by
    rcases front with _ | ⟨first, _ | ⟨second, front⟩⟩
    · have hne : part ≠ "" := by
        rintro rfl
        exact absurd hpart (by decide)
      rcases back with _ | ⟨next, back⟩ <;> simp [start, hne]
    · by_cases hfirst : first = "" <;> simp [start, hfirst]
    · by_cases hfirst : first = "" <;> simp [start, hfirst]
  rw [placesOn, placesOn, hstart]
  exact passed_append_subset _ _ _

theorem above_isInitial (path : List String) : (above path).reverse <+: path := by
  have h : above path <:+ path.reverse :=
    (List.dropWhile_suffix _).trans ((List.drop_suffix _ _).trans (List.dropWhile_suffix _))
  simpa using List.reverse_prefix.mpr h

/-- **Making the directories on a path**, up to some part of it, makes directories only there. -/
theorem makeDirectories_grows {reversed : List String} (h : reversed.reverse <+: path) :
    Grows (placesOn here path) tree (tree.makeDirectories here reversed).1 := by
  induction reversed generalizing tree with
  | nil => exact .refl _ _
  | cons part above ih =>
    rw [List.reverse_cons] at h
    have habove : above.reverse <+: path := (List.prefix_append _ _).trans h
    unfold makeDirectories
    split
    · exact ih habove
    · rename_i hpart
      have hsub : placesOn here (above.reverse ++ [part]) ⊆ placesOn here path :=
        placesOn_subset (by simpa using hpart) h
      rw [List.reverse_cons]
      dsimp only
      split
      · rename_i made hmade
        exact (ensureDirectory_grows hmade).mono hsub
      · split
        · rename_i made e hmade
          rw [show made = _ from (congrArg Prod.fst hmade).symm]
          exact ih habove
        · rename_i made hmade
          have hgrows : Grows (placesOn here path) tree made := by
            rw [show made = _ from (congrArg Prod.fst hmade).symm]
            exact ih habove
          split
          · rename_i last hlast
            exact hgrows.trans ((ensureDirectory_grows hlast).mono hsub)
          · exact hgrows
      · exact .refl _ _

theorem makeDirectories_above_grows (tree : FileTree) (here : Place) (path : List String) :
    Grows (placesOn here path) tree (tree.makeDirectories here (above path)).1 :=
  makeDirectories_grows (above_isInitial path)

/-! ## A new file -/

/-- **A file with new content** stands where its path leads. -/
theorem exists_of_replace (h : tree.replace here path content = .ok other) :
    ∃ place name, tree.target here path = .ok (place, some name) ∧
      tree.entry place = .directory ∧ tree.entry (place ++ [name]) ≠ .directory ∧
      other = tree.put (place ++ [name]) content ∧
      other.locate here path = .ok (place ++ [name]) := by
  unfold replace at h
  rcases htarget : tree.target here path with e | ⟨place, name?⟩
  · rw [htarget] at h
    cases h
  · rw [htarget] at h
    rcases name? with _ | name
    · cases h
    · simp only [bind, Except.bind] at h
      split at h
      · cases h
      · rename_i hlast
        split at h
        · cases h
        · rename_i hentry
          obtain rfl := (Except.ok.inj h).symm
          obtain ⟨-, -, -, -, -, hdir, -⟩ := exists_of_target htarget
          refine ⟨place, name, rfl, hdir, hentry, rfl, ?_⟩
          refine locate_mono (fun q _ hq => ?_) (locate_of_target htarget hlast)
          rw [entry_put hdir, hq]
          rintro rfl
          exact hentry hq

/-! ## Writing -/

/-- **A file that was written** can be read again, and no other file has changed. -/
theorem write_ok {path : String} (h : tree.write here path content = (other, .ok ())) :
    ∃ place, other.locate here (parts path) = .ok place ∧
      other.files.lookup place = some content ∧ other.read here path = .ok content ∧
      ∀ q ≠ place, other.files.lookup q = tree.files.lookup q := by
  unfold write at h
  dsimp only at h
  split at h
  · cases h
  · rename_i made hmade
    have hgrows := makeDirectories_above_grows tree here (parts path)
    rw [hmade] at hgrows
    split at h
    · rename_i last hlast
      obtain rfl : last = other := congrArg Prod.fst h
      obtain ⟨place, name, -, -, -, rfl, hlocate⟩ := exists_of_replace hlast
      refine ⟨place ++ [name], hlocate, by rw [lookup_put, if_pos rfl], ?_, fun q hq => ?_⟩
      · unfold read
        rw [hlocate]
        simp only [bind, Except.bind, entry_put_self]
        rfl
      · rw [lookup_put, if_neg hq, hgrows.files]
    · cases h

theorem write_error {path : String} {e : FileError}
    (h : tree.write here path content = (other, .error e)) : other.files = tree.files := by
  have hfiles := (makeDirectories_above_grows tree here (parts path)).files
  unfold write at h
  dsimp only at h
  split at h
  · rename_i made e' hmade
    obtain rfl : made = other := congrArg Prod.fst h
    rwa [hmade] at hfiles
  · rename_i made hmade
    split at h
    · cases h
    · obtain rfl : made = other := congrArg Prod.fst h
      rwa [hmade] at hfiles

/-- **A file that was written at a path that led nowhere** is new. The path must not pass a
directory that was missing and leave it again upwards. -/
theorem lookup_eq_none_of_write {path : String}
    (h : tree.write here path content = (other, .ok ())) (hhas : tree.has here path = false)
    (hplace : other.locate here (parts path) = .ok place)
    (hpath : ∀ q ∈ placesOn here (parts path), q <+: place ∨ tree.entry q = .directory) :
    tree.files.lookup place = none := by
  obtain ⟨place', hlocate, hwritten, -, hothers⟩ := write_ok h
  obtain rfl : place' = place := Except.ok.inj (hlocate.symm.trans hplace)
  by_contra hsome
  obtain ⟨old, hold⟩ := Option.ne_none_iff_exists'.mp hsome
  -- The directories that the path passes now were there already, since there was a file below.
  have hlocate' : tree.locate here (parts path) = .ok place' := by
    refine locate_mono (fun q hq hdir => ?_) hlocate
    rcases hpath q hq with hbelow | hdir'
    · have hne : q ≠ place' := by
        rintro rfl
        rw [entry_of_lookup hwritten] at hdir
        cases hdir
      refine entry_of_leads ?_ (.inr (.inl ⟨(place', old), ?_, hbelow⟩))
      · rw [← hothers q hne]
        exact lookup_eq_none (.inl hdir)
      · obtain ⟨before, after, heq, -⟩ := List.lookup_eq_some_iff.mp hold
        rw [heq]
        exact List.mem_append_right _ List.mem_cons_self
    · exact hdir'
  unfold has at hhas
  rw [hlocate'] at hhas
  simp only [entry_of_lookup hold] at hhas
  cases hhas

/-- **Writing changes nothing away from the path.** -/
theorem entry_write {path : String} (hq : q ∉ placesOn here (parts path)) :
    (tree.write here path content).1.entry q = tree.entry q := by
  have hgrows := makeDirectories_above_grows tree here (parts path)
  unfold write
  dsimp only
  generalize tree.makeDirectories here (above (parts path)) = made at hgrows ⊢
  rcases made with ⟨made, e | _⟩
  · exact hgrows.entry_eq hq
  · dsimp only
    split
    · rename_i last hlast
      obtain ⟨place, name, htarget, hdir, -, rfl, -⟩ := exists_of_replace hlast
      rw [entry_put hdir, hgrows.entry_eq hq]
      rintro rfl
      exact hq (mem_placesOn_of_target htarget)
    · exact hgrows.entry_eq hq

/-! ## Two trees -/

/-- **The trees differ at a place and below it, if at all.** -/
def AgreeOutside (p : Place) (tree other : FileTree) : Prop :=
  ∀ q, ¬ p <+: q → tree.entry q = other.entry q

/-- No place on a path is the given one, or below it. -/
def Avoids (p here : Place) (path : List String) : Prop := ∀ q ∈ placesOn here path, ¬ p <+: q

/-- The same error, or trees that agree as before. -/
def SameOutcome (p : Place) : Except FileError FileTree → Except FileError FileTree → Prop
  | .ok tree, .ok other => AgreeOutside p tree other
  | .error e, .error e' => e = e'
  | _, _ => False

theorem AgreeOutside.sameAt (h : AgreeOutside p tree other) (hpath : Avoids p here path) :
    SameAt (placesOn here path) tree other :=
  fun q hq => h q (hpath q hq)

theorem makeDirectory_agree (h : AgreeOutside p tree other) (hpath : Avoids p here path) :
    SameOutcome p (tree.makeDirectory here path) (other.makeDirectory here path) := by
  have htarget := target_congr (h.sameAt hpath)
  unfold makeDirectory
  rw [htarget]
  rcases hother : other.target here path with e | ⟨place, _ | name⟩
  · rfl
  · rfl
  · have hmem : place ++ [name] ∈ placesOn here path := mem_placesOn_of_target hother
    obtain ⟨-, -, -, -, -, hdir', -⟩ := exists_of_target hother
    obtain ⟨-, -, -, -, -, hdir, -⟩ := exists_of_target (htarget.trans hother)
    have hentry := h _ (hpath _ hmem)
    simp only [bind, Except.bind, hentry]
    split
    · rename_i hmissing
      intro q hq
      by_cases heq : q = place ++ [name]
      · rw [heq, entry_withDirectory_self hmissing,
          entry_withDirectory_self (hentry.trans hmissing)]
      · rw [entry_withDirectory hdir heq, entry_withDirectory hdir' heq, h q hq]
    · rfl

theorem ensureDirectory_agree (h : AgreeOutside p tree other) (hpath : Avoids p here path) :
    SameOutcome p (tree.ensureDirectory here path) (other.ensureDirectory here path) := by
  have hmade := makeDirectory_agree h hpath
  unfold ensureDirectory
  generalize tree.makeDirectory here path = made, other.makeDirectory here path = made' at hmade
  rcases made with e | made <;> rcases made' with e' | made'
  · obtain rfl : e = e' := hmade
    have hsame := h.sameAt hpath
    rw [locate_congr hsame]
    rcases hlocate : other.locate here path with e'' | place
    · rfl
    · simp only [Except.map, hsame place (mem_placesOn_of_locate hlocate)]
      split
      · exact h
      · rfl
  · exact hmade.elim
  · exact hmade.elim
  · exact hmade

theorem makeDirectories_agree {reversed : List String} (h : AgreeOutside p tree other)
    (hpath : Avoids p here path) (hbelow : reversed.reverse <+: path) :
    (tree.makeDirectories here reversed).2 = (other.makeDirectories here reversed).2 ∧
      AgreeOutside p (tree.makeDirectories here reversed).1
        (other.makeDirectories here reversed).1 := by
  induction reversed generalizing tree other with
  | nil => exact ⟨rfl, h⟩
  | cons part above ih =>
    rw [List.reverse_cons] at hbelow
    have habove : above.reverse <+: path := (List.prefix_append _ _).trans hbelow
    unfold makeDirectories
    split
    · exact ih h habove
    · rename_i hpart
      have hfront : Avoids p here (above.reverse ++ [part]) := fun q hq =>
        hpath q (placesOn_subset (by simpa using hpart) hbelow hq)
      rw [List.reverse_cons]
      dsimp only
      have hmade := ensureDirectory_agree h hfront
      generalize tree.ensureDirectory here (above.reverse ++ [part]) = made,
        other.ensureDirectory here (above.reverse ++ [part]) = made' at hmade
      rcases made with e | made <;> rcases made' with e' | made'
      · obtain rfl : e = e' := hmade
        obtain ⟨hcode, hagree⟩ := ih h habove
        generalize tree.makeDirectories here above = rest,
          other.makeDirectories here above = rest' at hcode hagree
        obtain ⟨rest, result⟩ := rest
        obtain ⟨rest', result'⟩ := rest'
        obtain rfl : result = result' := hcode
        cases e <;> try exact ⟨rfl, h⟩
        rcases result with e | _
        · exact ⟨rfl, hagree⟩
        · dsimp only at hagree ⊢
          have hlast := ensureDirectory_agree hagree hfront
          generalize rest.ensureDirectory here (above.reverse ++ [part]) = last,
            rest'.ensureDirectory here (above.reverse ++ [part]) = last' at hlast
          rcases last with e | last <;> rcases last' with e' | last'
          · obtain rfl : e = e' := hlast
            exact ⟨rfl, hagree⟩
          · exact hlast.elim
          · exact hlast.elim
          · exact ⟨rfl, hlast⟩
      · exact hmade.elim
      · exact hmade.elim
      · exact ⟨rfl, hmade⟩

theorem replace_agree (content : String) (h : AgreeOutside p tree other)
    (hpath : Avoids p here path) :
    SameOutcome p (tree.replace here path content) (other.replace here path content) := by
  have htarget := target_congr (h.sameAt hpath)
  unfold replace
  rw [htarget]
  rcases hother : other.target here path with e | ⟨place, _ | name⟩
  · rfl
  · rfl
  · have hmem : place ++ [name] ∈ placesOn here path := mem_placesOn_of_target hother
    obtain ⟨-, -, -, -, -, hdir', -⟩ := exists_of_target hother
    obtain ⟨-, -, -, -, -, hdir, -⟩ := exists_of_target (htarget.trans hother)
    simp only [bind, Except.bind, h _ (hpath _ hmem)]
    split
    · rfl
    · split
      · rfl
      · intro q hq
        by_cases heq : q = place ++ [name]
        · rw [heq, entry_put_self, entry_put_self]
        · rw [entry_put hdir heq, entry_put hdir' heq, h q hq]

/-- **Writing in two trees that differ away from the path** ends in the same way and keeps their
difference. -/
theorem write_agree {path : String} (content : String) (h : AgreeOutside p tree other)
    (hpath : Avoids p here (parts path)) :
    (tree.write here path content).2 = (other.write here path content).2 ∧
      AgreeOutside p (tree.write here path content).1 (other.write here path content).1 := by
  obtain ⟨hcode, hagree⟩ := makeDirectories_agree h hpath (above_isInitial _)
  unfold write
  dsimp only
  generalize tree.makeDirectories here (above (parts path)) = made,
    other.makeDirectories here (above (parts path)) = made' at hcode hagree
  obtain ⟨made, result⟩ := made
  obtain ⟨made', result'⟩ := made'
  obtain rfl : result = result' := hcode
  rcases result with e | _
  · exact ⟨rfl, hagree⟩
  · dsimp only at hagree ⊢
    have hlast := replace_agree content hagree hpath
    generalize made.replace here (parts path) content = last,
      made'.replace here (parts path) content = last' at hlast
    rcases last with e | last <;> rcases last' with e' | last'
    · obtain rfl : e = e' := hlast
      exact ⟨rfl, hagree⟩
    · exact hlast.elim
    · exact hlast.elim
    · exact ⟨rfl, hlast⟩

end FileTree

end OneUnknown
