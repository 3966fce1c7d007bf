import Reactor.Proofs.Selection

/-!
Which transport is chosen, and which ones are probed on the way. Candidates are tried in their order
until one can be used, and none behind it is touched. The host's own candidates come last; one of
them that cannot be used is still remembered, and probed again before the portable one is taken.
-/

namespace Reactor

open Told

def Entry.probe? : Entry → Option Transport
  | .call (.probe transport) => some transport
  | _ => none

namespace Transport

/-- The candidates up to the first one that can be used, with it. -/
def tried (candidates : List Transport) : List Transport :=
  candidates.takeWhile (!·.isAvailable) ++ (candidates.find? (·.isAvailable)).toList

theorem probe_of_available {transport : Transport} (up : transport.isAvailable = true) :
    transport.probe = .ok () := by
  have never : transport.down = none := Option.isNone_iff_eq_none.mp up
  unfold probe
  rw [never]

theorem probe_of_down {transport : Transport} (down : transport.isAvailable = false) :
    ∃ fault, transport.probe = .error fault := by
  unfold isAvailable at down
  unfold probe
  cases why : transport.down with
  | none =>
      rw [why] at down
      cases down
  | some reason => exact ⟨⟨reason⟩, rfl⟩

theorem tried_up {candidate : Transport} (up : candidate.isAvailable = true)
    (candidates : List Transport) : tried (candidate :: candidates) = [candidate] := by
  unfold tried
  rw [List.takeWhile_cons_of_neg (by simp [up]), List.find?_cons_of_pos up]
  rfl

theorem tried_down {candidate : Transport} (down : candidate.isAvailable = false)
    (candidates : List Transport) : tried (candidate :: candidates) = candidate :: tried candidates := by
  unfold tried
  rw [List.takeWhile_cons_of_pos (by simp [down]), List.find?_cons_of_neg (by simp [down])]
  rfl

variable {candidates before after : List Transport} {chosen : Transport}

theorem find?_split (down : ∀ candidate ∈ before, candidate.isAvailable = false)
    (up : chosen.isAvailable = true) :
    (before ++ chosen :: after).find? (·.isAvailable) = some chosen := by
  have none : before.find? (·.isAvailable) = none :=
    List.find?_eq_none.mpr fun candidate present => by simp [down candidate present]
  rw [List.find?_append, none, List.find?_cons_of_pos up]
  rfl

theorem tried_split (down : ∀ candidate ∈ before, candidate.isAvailable = false)
    (up : chosen.isAvailable = true) :
    tried (before ++ chosen :: after) = before ++ [chosen] := by
  induction before with
  | nil => exact tried_up up after
  | cons candidate before ih =>
      have others := ih fun other present => down other (List.mem_cons_of_mem _ present)
      rw [List.cons_append, tried_down (down candidate List.mem_cons_self), others]
      rfl

theorem find?_none (down : ∀ candidate ∈ candidates, candidate.isAvailable = false) :
    candidates.find? (·.isAvailable) = none :=
  List.find?_eq_none.mpr fun candidate present => by simp [down candidate present]

theorem tried_all (down : ∀ candidate ∈ candidates, candidate.isAvailable = false) :
    tried candidates = candidates := by
  induction candidates with
  | nil => rfl
  | cons candidate candidates ih =>
      rw [tried_down (down candidate List.mem_cons_self),
        ih fun other present => down other (List.mem_cons_of_mem _ present)]

private theorem probing_yields (transport : Transport) :
    (do Told.call (.probe transport); return transport.probe : Told (Except ProbeFault Unit)).Yields
      Entry.probe? transport.probe [transport] :=
  (yields_tell _).andLast (yields_pure _)

private theorem noted_yields (event : LogEvent) :
    (tell (.log .caller event)).Yields Entry.probe? () [] :=
  yields_tell _

theorem firstRegistered_yields (candidates : List Transport) :
    (firstRegistered candidates).Yields Entry.probe? (candidates.find? (·.isAvailable))
      (tried candidates) := by
  induction candidates with
  | nil => exact yields_pure _
  | cons candidate candidates ih =>
      unfold firstRegistered
      cases up : candidate.isAvailable with
      | true =>
          rw [tried_up up, List.find?_cons_of_pos up]
          refine (probing_yields candidate).andLast ?_
          rw [probe_of_available up]
          exact (noted_yields _).andThen (yields_pure _)
      | false =>
          obtain ⟨fault, fails⟩ := probe_of_down up
          rw [tried_down up, List.find?_cons_of_neg (by simp [up])]
          refine (probing_yields candidate).bind ?_
          rw [fails]
          exact (noted_yields _).andThen ih

def loaded (loads : List LoadOutcome) : List Transport :=
  loads.filterMap fun load => load.isolate.toOption

/-- The first one loaded that can be used; without one, the fallback or else the first one loaded. -/
theorem firstNative_yields (fallback : Option Transport) (loads : List LoadOutcome) :
    (firstNative fallback loads).Yields Entry.probe?
      ((loaded loads).find? (·.isAvailable) <|> fallback <|> (loaded loads).head?)
      (tried (loaded loads)) := by
  induction loads generalizing fallback with
  | nil =>
      refine (yields_pure fallback).of_eq ?_ rfl
      cases fallback <;> rfl
  | cons load loads ih =>
      unfold firstNative
      cases outcome : load.isolate with
      | error fault =>
          have skipped : loaded (load :: loads) = loaded loads :=
            List.filterMap_cons_none (by rw [outcome]; rfl)
          rw [skipped]
          exact (noted_yields _).andThen (ih fallback)
      | ok transport =>
          have counted : loaded (load :: loads) = transport :: loaded loads :=
            List.filterMap_cons_some (by rw [outcome]; rfl)
          rw [counted]
          cases up : transport.isAvailable with
          | true =>
              rw [tried_up up, List.find?_cons_of_pos up]
              refine (probing_yields transport).andLast ?_
              rw [probe_of_available up]
              exact yields_pure _
          | false =>
              obtain ⟨fault, fails⟩ := probe_of_down up
              rw [tried_down up, List.find?_cons_of_neg (by simp [up])]
              refine (probing_yields transport).bind ?_
              rw [fails]
              refine (noted_yields _).andThen ((ih _).of_eq ?_ rfl)
              -- The transport at hand is the first one loaded, so it is the fallback from here on.
              cases (loaded loads).find? (·.isAvailable) <;> cases fallback <;> rfl

/-- The probes of the host's own transports: the one that is found is probed once more, and one that
cannot be used yet again, for the reason. -/
def hostProbes (host : Host) : List Transport :=
  match host.epollDown with
  | none => [epoll none, epoll none]
  | some reason => [epoll (some reason), kqueue, epoll (some reason), epoll (some reason)]

def hostChoice (host : Host) : Transport :=
  match host.epollDown with
  | none => epoll none
  | some _ => portable

theorem nativeOrPortable_yields (host : Host) :
    (nativeOrPortable host).Yields Entry.probe? (hostChoice host) (hostProbes host) := by
  unfold nativeOrPortable native nativeLoads hostChoice hostProbes
  cases host.epollDown with
  | none =>
      have found : (firstNative none [.loads (epoll none), .loads kqueue]).Yields Entry.probe?
          (some (epoll none)) [epoll none] := firstNative_yields none _
      -- What the search has found is probed by the choice itself once more.
      refine found.bind ((probing_yields (epoll none)).andLast ?_)
      rw [probe_of_available rfl]
      exact (noted_yields _).andThen (yields_pure _)
  | some reason =>
      have found : (firstNative none [.loads (epoll (some reason)), .loads kqueue]).Yields
          Entry.probe? (some (epoll (some reason))) [epoll (some reason), kqueue] :=
        firstNative_yields none _
      obtain ⟨fault, fails⟩ := @probe_of_down (epoll (some reason)) rfl
      refine found.bind ((probing_yields (epoll (some reason))).bind ?_)
      rw [fails]
      exact (yields_tell _).bind ((noted_yields _).andThen (yields_pure _))

/-! ### The choice -/

theorem isAvailable_hostChoice (host : Host) : (hostChoice host).isAvailable = true := by
  unfold hostChoice
  cases host.epollDown <;> rfl

theorem select_native (host : Host) (registry : Registry) :
    (select host true none registry).Yields Entry.probe?
      ((registry.transports.find? (·.isAvailable)).getD (hostChoice host))
      (tried registry.transports
        ++ if registry.transports.any (·.isAvailable) then [] else hostProbes host) := by
  have discovered : registry.discoverTransports.Yields Entry.probe? registry.transports [] :=
    (yields_tell _).andThen (yields_pure _)
  refine discovered.andThen ((firstRegistered_yields registry.transports).bind ?_)
  cases found : registry.transports.find? (·.isAvailable) with
  | some chosen =>
      have some : registry.transports.any (·.isAvailable) = true :=
        List.any_eq_true.mpr ⟨chosen, List.mem_of_find?_eq_some found, List.find?_some found⟩
      rw [if_pos some]
      exact yields_pure _
  | none =>
      have none : ¬registry.transports.any (·.isAvailable) = true := by
        simpa using found
      rw [if_neg none]
      exact nativeOrPortable_yields host

/-- What is chosen between a transport that was set and these candidates, and what is probed on
the way. -/
structure Chooses (host : Host) (preferNative : Bool) (set : Option Transport)
    (candidates : List Transport) (told : Told Transport) : Prop where
  explicit : ∀ transport, set = some transport → told.Yields Entry.probe? transport []
  portable : set = none → preferNative = false → told.Yields Entry.probe? portable []
  registered : set = none → preferNative = true →
    ∀ before chosen after, candidates = before ++ chosen :: after →
      (∀ candidate ∈ before, candidate.isAvailable = false) → chosen.isAvailable = true →
      told.Yields Entry.probe? chosen (before ++ [chosen])
  own : set = none → preferNative = true →
    (∀ candidate ∈ candidates, candidate.isAvailable = false) →
    told.Yields Entry.probe? (hostChoice host) (candidates ++ hostProbes host)
  available : set = some told.value ∨ told.value.isAvailable = true
  only : told.Only Entry.IsProbing

theorem select_chooses (host : Host) (preferNative : Bool) (set : Option Transport)
    (registry : Registry) :
    Chooses host preferNative set registry.transports (select host preferNative set registry) := by
  have native := select_native host registry
  constructor
  case explicit =>
    rintro transport rfl
    exact (noted_yields _).andThen (yields_pure _)
  case portable =>
    rintro rfl rfl
    exact (noted_yields _).andThen (yields_pure _)
  case registered =>
    rintro rfl rfl before chosen after same down up
    have some : registry.transports.any (·.isAvailable) = true :=
      List.any_eq_true.mpr ⟨chosen, by simp [same], up⟩
    rw [if_pos some, List.append_nil, same, find?_split down up, tried_split down up] at native
    exact native
  case own =>
    rintro rfl rfl down
    have none : ¬registry.transports.any (·.isAvailable) = true := by
      simpa using down
    rw [if_neg none, find?_none down, tried_all down] at native
    exact native
  case available =>
    cases set with
    | some transport => exact Or.inl rfl
    | none =>
        refine Or.inr ?_
        cases preferNative with
        | false => rfl
        | true =>
            rw [native.1]
            cases found : registry.transports.find? (·.isAvailable) with
            | some chosen => exact List.find?_some found
            | none => exact isAvailable_hostChoice host
  case only => exact select_probing host preferNative set registry

/-- Of three candidates the second one is the first that can be used. -/
example :
    let far : Transport := ⟨.epoll, "far", some "no route", false⟩
    let near : Transport := ⟨.kqueue, "near", none, false⟩
    let told := select default true none ⟨[], [far, near, far]⟩
    told.value = near ∧ told.entries.filterMap Entry.probe? = [far, near] :=
  ⟨rfl, rfl⟩

end Transport

end Reactor
