import FormScript.Proofs.Run.Keys

/-!
# The history of a run

A run comes to each of its visits by the visits before it. So what a visit finds is told by these
visits alone: the calls that were made before, and the subject that waits.
-/

namespace FormScript.Run

namespace Makes

variable {r r' : Run} {visits : List Visit}

private theorem events_eq (h : Makes r r' visits) :
    r'.events = r.events ++ visits.flatMap Visit.events := by
  rw [Run.events, Run.events, h.journal_eq, List.filterMap_append, List.filterMap_flatMap]
  congr
  funext v
  rw [Visit.entries, List.filterMap_cons_none rfl, List.filterMap_map]
  exact List.filterMap_some

/-- The actions of a run are those of its visits. -/
theorem actions_eq (h : Makes r r' visits) :
    r'.actions = r.actions ++ visits.flatMap Visit.actions := by
  rw [actions_eq_filterMap, h.events_eq, List.filterMap_append, List.filterMap_flatMap,
    ← actions_eq_filterMap]
  rfl

/-- The requests of a run are those of its visits. -/
theorem requests_eq (h : Makes r r' visits) :
    r'.requests = r.requests ++ visits.flatMap Visit.requests := by
  rw [requests_eq_filterMap, h.events_eq, List.filterMap_append, List.filterMap_flatMap,
    ← requests_eq_filterMap]
  rfl

/-- The visited cells of a run are those of its visits. -/
theorem visited_eq (h : Makes r r' visits) :
    r'.visited = r.visited ++ visits.map fun v => (v.row, v.column) := by
  rw [Run.visited, Run.visited, h.journal_eq, List.filterMap_append, List.filterMap_flatMap,
    List.map_eq_flatMap]
  congr
  funext v
  exact congrArg ((v.row, v.column) :: ·) (filterMap_event (fun _ => rfl) v.events)

end Makes

variable {setup : Setup} {s : Sheet} {moves : List Move} {r : Run}

/-- A visit on the way of a run is one of its moves, and the moves before it make the visits before
it. -/
theorem exists_moves_of_visitsAlong {before after : List Visit} {v : Visit}
    (h : visitsAlong setup moves r = before ++ v :: after) :
    ∃ moves₁ row column moves₂, moves = moves₁ ++ .visit row column :: moves₂ ∧
      visitsAlong setup moves₁ r = before ∧ v = visitOf setup (follow setup moves₁ r) row column ∧
      visitsAlong setup moves₂ ((follow setup moves₁ r).visit setup row column) = after := by
  induction moves generalizing r before with
  | nil => cases before <;> cases h
  | cons move moves ih =>
    -- The visit is not that of the first move: the moves before it are found among the rest.
    have hlater : ∀ before', visitsAlong setup moves (move.perform setup r) = before' ++ v :: after →
        (move.cell?.map fun cell => visitOf setup r cell.1 cell.2).toList ++ before' = before →
        ∃ moves₁ row column moves₂, move :: moves = moves₁ ++ .visit row column :: moves₂ ∧
          visitsAlong setup moves₁ r = before ∧
          v = visitOf setup (follow setup moves₁ r) row column ∧
          visitsAlong setup moves₂ ((follow setup moves₁ r).visit setup row column) = after := by
      intro before' hrest hbefore
      obtain ⟨moves₁, row, column, moves₂, rfl, rfl, hv, hafter⟩ := ih hrest
      exact ⟨move :: moves₁, row, column, moves₂, rfl, hbefore, hv, hafter⟩
    cases move with
    | visit row column =>
      cases before with
      | nil =>
        obtain ⟨hv, hafter⟩ := List.cons.inj h
        exact ⟨[], row, column, moves, rfl, rfl, hv.symm, hafter⟩
      | cons w before =>
        obtain ⟨hw, hrest⟩ := List.cons.inj h
        exact hlater before hrest (congrArg (· :: before) hw)
    | turn | enter _ | count | leave | record _ => exact hlater before h rfl

/-- The visits are all that a run over the sheet has done, from its start on. -/
structure History (setup : Setup) (s : Sheet) (r : Run) (visits : List Visit) : Prop where
  makes : Makes (start s) r visits
  obeys : ∀ v ∈ visits, v.Obeys setup s
  /-- The run came to each of its visits by the visits before it. -/
  comes : ∀ before v after, visits = before ++ v :: after →
    ∃ r', Makes (start s) r' before ∧ s.SameScript r'.sheet ∧ v = visitOf setup r' v.row v.column

/-- The visits along moves below the header are a history. -/
theorem history_follow (setup : Setup) (s : Sheet) (hmoves : ∀ move ∈ moves, move.IsBelowHeader) :
    History setup s (follow setup moves (start s)) (visitsAlong setup moves (start s)) where
  makes := makes_follow setup moves (start s)
  obeys := obeys_follow setup (.refl s) hmoves
  comes before v after h := by
    obtain ⟨moves₁, row, column, moves₂, rfl, rfl, rfl, rfl⟩ := exists_moves_of_visitsAlong h
    refine ⟨follow setup moves₁ (start s), makes_follow setup moves₁ (start s), ?_, rfl⟩
    exact sameScript_follow setup (.refl s) fun move hmove =>
      hmoves move (List.mem_append_left _ hmove)

/-- After each of some passes the run has a history. -/
theorem exists_history_of_mem_passes (setup : Setup) (s : Sheet) (count : Nat) (r : Run)
    (h : r ∈ passes setup count (start s)) : ∃ visits, History setup s r visits := by
  obtain ⟨n, rfl⟩ := exists_follow_of_mem_passes setup count (.refl s) r h
  exact ⟨_, history_follow setup s fun _ => isBelowHeader_of_mem_itineraries⟩

/-- The subsequences of a sheet tell under which keys the visits of its runs look titles up. -/
theorem exists_history_keepsKeys (setup : Setup) (s : Sheet) (count : Nat) :
    ∃ passages, s.Decomposes none passages ∧ ∀ r ∈ passes setup count (start s),
      ∃ visits, History setup s r visits ∧ ∀ v ∈ visits, v.KeepsKeys setup s passages := by
  refine ⟨passagesOf (s.movesFrom 1 0), decomposes_itinerary s, fun r hr => ?_⟩
  obtain ⟨n, rfl⟩ := exists_follow_of_mem_passes setup count (.refl s) r hr
  have h : History setup s _ (visitsAlong setup (itineraries s n) (start s)) :=
    history_follow setup s fun _ => isBelowHeader_of_mem_itineraries
  exact ⟨_, h, fun v hv =>
    (h.obeys v hv).keepsKeys (places_of_mem_visitsAlong setup (places_itineraries s n).2 v hv)⟩

/-- The subject that waits at a visit was handed on by the visits before it. -/
theorem History.handsOn {visits : List Visit} (h : History setup s r visits)
    {before after : List Visit} {v : Visit} (hvisits : visits = before ++ v :: after) :
    HandsOn none before v.session.pendingSubject := by
  obtain ⟨r', hmakes, _, hv⟩ := h.comes before v after hvisits
  rw [congrArg Visit.session hv]
  exact hmakes.handsOn

end FormScript.Run
