import Mathlib
import LiveText.Proofs.Session.Preservation

/-!
# Collections

While a collector is busy, what is read through it is read for the subscriber that it is busy with,
and other collections are refused. When a collection is over the collector has nobody again, also if
the steps taken meanwhile have been abandoned, and none of them can have changed that. So whatever a
step does to a session, collectors are found afterwards as they were found before.

## Main definitions

- `Bracketed`: collectors, and what is kept alive, are as before.
- `CollectsFor`: what reading through a collector does that collects for a subscriber.
- `BusyWith`: a collector collects for a subscriber that is kept alive.

## Main statements

- `runsRespect_bracketed`: runs are bracketed, however they end.
- `BusyWith.during`: a collector is busy with its subscriber until the collection is over.
- `collections_are_bracketed`: collections, and renderings of bindings.
-/

namespace LiveText.Session

variable {w w' : Session} {c : CollectorId} {s : SubscriberId}

/-! ## Collectors before and after -/

/-- Between two sessions no collector has changed, nor has what is kept alive. -/
structure Bracketed (w w' : Session) : Prop where
  held : w'.held = w.held
  collector : ∀ c, w'.collector c = w.collector c

theorem Bracketed.trans {w'' : Session} (h : Bracketed w w') (h' : Bracketed w' w'') :
    Bracketed w w'' where
  held := h'.held.trans h.held
  collector c := (h'.collector c).trans (h.collector c)

/-- A new collector has nobody, like one that there is not. -/
theorem collector_newCollector (w : Session) (c : CollectorId) :
    w.newCollector.2.collector c = w.collector c := by
  rw [collector, newCollector, Array.getElem?_push, collector]
  by_cases h : c = w.collectors.size
  · simp [h]
  · simp [h]

/-- A part of the session that is neither the collectors nor what is kept alive. -/
theorem bracketed_of_eq (hheld : w'.held = w.held) (hcollectors : w'.collectors = w.collectors) :
    Bracketed w w' where
  held := hheld
  collector := collector_congr hcollectors

theorem bracketed_observe (w : Session) (data : Value) : Bracketed w (w.observe data).2 := by
  obtain ⟨trace, hobserve⟩ := observe_eq w data
  rw [hobserve]
  exact bracketed_of_eq rfl rfl

/-- Edits leave collectors alone. -/
theorem elementary_bracketed : Elementary Bracketed where
  refl _ := bracketed_of_eq rfl rfl
  trans := .trans
  rename _ _ := bracketed_of_eq rfl rfl
  emit _ _ := bracketed_of_eq rfl rfl
  setState _ _ _ := bracketed_of_eq rfl rfl
  modifyDocument _ _ _ := bracketed_of_eq rfl rfl
  modifyBinding _ _ _ _ := bracketed_of_eq rfl rfl
  setLabel _ _ _ := bracketed_of_eq rfl rfl
  observe := bracketed_observe
  newCollector w := ⟨rfl, collector_newCollector w⟩
  newDocument _ _ := bracketed_of_eq rfl rfl
  newScratch _ _ := bracketed_of_eq rfl rfl
  newBindingSet _ := bracketed_of_eq rfl rfl
  withBinding _ _ _ := bracketed_of_eq rfl rfl
  holding _ h := ⟨rfl, h.collector⟩

theorem start_eq_ok {k busy : Collector} (h : k.start s = .ok busy) :
    k = ⟨none⟩ ∧ busy = ⟨some s⟩ := by
  rcases k with ⟨_ | active⟩
  · exact ⟨rfl, (Except.ok.inj h).symm⟩
  · cases h

/-- The collector of a collection is found idle at the end, as it was at the beginning. -/
theorem bracketed_collecting {busy : Collector} (hstart : (w.collector c).start s = .ok busy)
    (h : Bracketed (w.setCollector c busy) w') :
    Bracketed w (w'.setCollector c (w'.collector c).finish) where
  held := h.held
  collector c' := by
    obtain ⟨hidle, -⟩ := start_eq_ok hstart
    by_cases hc : c = c'
    · subst hc
      by_cases hthere : c < w'.collectors.size
      · rw [collector_setCollector, if_pos ⟨rfl, hthere⟩, hidle]
        rfl
      · -- There is no such collector, so nobody can have started with it.
        rw [collector_setCollector, if_neg fun hboth => hthere hboth.2, hidle]
        exact collector_of_size_le (Nat.le_of_not_lt hthere)
    · have hother := h.collector c'
      rw [collector_setCollector, if_neg fun hboth => hc hboth.1] at hother
      rw [collector_setCollector, if_neg fun hboth => hc hboth.1, hother]

/-- Runs leave collectors as they have found them, however they end. -/
theorem runsRespect_bracketed : RunsRespect Bracketed :=
  elementary_bracketed.runsRespect (fun _ _ _ _ => bracketed_of_eq rfl rfl)
    (fun _ _ => bracketed_of_eq rfl rfl) (fun _ _ => bracketed_of_eq rfl rfl) bracketed_collecting

/-! ## While a collector is busy -/

/-- A collector collects for a subscriber: whoever tracks a publisher through the collector, or
reads a property of a state, registers this subscriber and nobody else. -/
structure CollectsFor (w : Session) (c : CollectorId) (s : SubscriberId) : Prop where
  active : (w.collector c).active = some s
  tracks : ∀ name publisher p, w.requireCollector name = .ok c →
    require .publisher w.names.publishers publisher = .ok p →
    ∃ p', w.perform (.track name publisher) =
        .ok (.flag (!p.contains w.isLive s), w.namePublisher publisher p') ∧
      p'.subscribers w.isLive = arrive (p.subscribers w.isLive) s
  reads : ∀ i p, ∃ st, (w.readTracked i p c).2 = w.setState i st ∧
    ∀ q, st.readers w.isLive q =
      if q ∈ p.prefixes.takeWhile (w.state i).contains then
        arrive ((w.state i).readers w.isLive q) s
      else (w.state i).readers w.isLive q

/-- A collector collects for a subscriber, and this one is kept alive meanwhile. -/
structure BusyWith (w : Session) (c : CollectorId) (s : SubscriberId) : Prop where
  active : (w.collector c).active = some s
  held : Holding.subscriber s ∈ w.held

namespace BusyWith

theorem isLive (h : BusyWith w c s) : w.isLive s = true := by
  rw [Session.isLive]
  simp [h.held]

theorem collectsFor (h : BusyWith w c s) : CollectsFor w c s where
  active := h.active
  tracks name publisher p hc hp := by
    refine ⟨p.register w.isLive s, ?_, Publisher.subscribers_register w.isLive p h.isLive⟩
    rw [perform, hc, hp]
    show Except.ok (Answer.flag (p.isNewTo w.isLive (w.collector c).active),
      w.namePublisher publisher (p.track w.isLive (w.collector c).active)) = _
    rw [h.active]
    rfl
  reads i p := by
    refine ⟨(State.readTracked w.isLive (w.collector c).active p (w.state i)).2, rfl, fun q => ?_⟩
    rw [State.snd_readTracked, State.readers,
      State.publisherAt_trackAlong _ _ (Path.nodup_prefixes p), h.active]
    split
    · exact Publisher.subscribers_register w.isLive _ h.isLive
    · rfl

theorem bracketed (h : BusyWith w c s) (hkept : Bracketed w w') : BusyWith w' c s :=
  ⟨hkept.collector c ▸ h.active, hkept.held ▸ h.held⟩

theorem hold (h : BusyWith w c s) (holdings : List Holding) : BusyWith (w.hold holdings) c s :=
  ⟨h.active, List.mem_append_right holdings h.held⟩

/-- Only a collector that has been idle begins to collect, so it is another one. -/
theorem setCollector (h : BusyWith w c s) {c' : CollectorId} {s' : SubscriberId} {busy : Collector}
    (hstart : (w.collector c').start s' = .ok busy) : BusyWith (w.setCollector c' busy) c s := by
  have hne : c' ≠ c := by
    rintro rfl
    have hactive := h.active
    rw [(start_eq_ok hstart).1] at hactive
    cases hactive
  refine ⟨?_, h.held⟩
  rw [collector_setCollector, if_neg fun hboth => hne hboth.1]
  exact h.active

/-- A collector is busy with its subscriber until the collection is over, whoever else has been
refused meanwhile. -/
theorem during (h : BusyWith w c s) {depth : Nat} {task : Task} {waiting : List SubscriberId}
    {m : Moment} (hm : During depth task w waiting m) : BusyWith m.session c s :=
  runsRespect_bracketed.during (P := (BusyWith · c s)) (fun hkept hu => hu.bracketed hkept)
    (fun _ holdings _ hu => hu.hold holdings) (fun hstart hu => hu.setCollector hstart) hm h

end BusyWith

/-! ## Collections -/

/-- A collection ends as the steps end that are taken meanwhile. -/
theorem fst_take_collect {tell : Telling} {collector subscriber : String} {body : List Step}
    (hfound : w.requireCollection collector subscriber = .ok (s, c))
    (hidle : (w.collector c).active = none) :
    (take tell (.collect collector subscriber body) w).1 =
      match (takeAll tell body
        ((w.hold (.subscriber s :: w.collectorHolding collector)).setCollector c ⟨some s⟩)).1 with
      | .returned answers => .returned (.results answers)
      | .abandoned => .abandoned := by
  simp only [take, hfound, Collector.start, hidle, Run.holding, Run.collecting]
  rcases hbody : takeAll tell body _ with ⟨answers | _, after⟩
  · rw [Run.bind_returned hbody]
    rfl
  · rw [Run.bind_abandoned hbody]

/-- Collections are bracketed. When a collection returns, or what it does is abandoned, every
collector is found as it was before. A collection through an idle collector takes its steps, and
until it is over whatever is read through the collector is read for the subscriber of the
collection. A collection through a busy collector is refused and its steps are not taken. The same
holds of the renderings of bindings, each of which collects for the subscriber of its binding. -/
theorem collections_are_bracketed (depth : Nat) (w : Session) :
    (∀ collector subscriber s c, w.requireCollection collector subscriber = .ok (s, c) →
      ∀ body, let collection := Step.collect collector subscriber body
      let after := take (telling depth) collection w
      (∀ c', after.2.collector c' = w.collector c') ∧
      ((w.collector c).active = none → c < w.collectors.size →
        let begun :=
          (w.hold (.subscriber s :: w.collectorHolding collector)).setCollector c ⟨some s⟩
        (after.1 = match (takeAll (telling depth) body begun).1 with
          | .returned answers => .returned (.results answers)
          | .abandoned => .abandoned) ∧
        ∀ waiting m, During depth (.step collection) w waiting m → CollectsFor m.session c s) ∧
      ∀ active, (w.collector c).active = some active →
        after = (.returned (.fault (.reentrantCollection active s)), w.emit .collectionRefused)) ∧
    ∀ set index b, w.binding? set index = some b →
      let after := w.renderBinding set index
      (∀ c', after.2.collector c' = w.collector c') ∧
      ((w.collector b.collector).active = none →
        ∃ result st, b.template.renderWith (State.readTracked w.isLive (some b.subscriber))
            (w.state b.state) = (result, st) ∧
          after = (.ok (), w.afterReading set index b st result)) ∧
      ∀ active, (w.collector b.collector).active = some active →
        after = (.error (.reentrantCollection active b.subscriber),
          (w.emit .collectionRefused).modifyBinding set index
            (·.fail (.reentrantCollection active b.subscriber))) := by
  refine ⟨fun collector subscriber s c hfound body => ?_, fun set index b hb => ?_⟩
  · refine ⟨(runsRespect_bracketed.take depth _ w).collector, fun hidle hthere => ⟨?_, ?_⟩, ?_⟩
    · rw [fst_take_collect hfound hidle]
    · intro waiting m hm
      cases hm with
      | collect hfound' hstart hm =>
        cases hfound.symm.trans hfound'
        refine (BusyWith.during ⟨?_, List.mem_cons_self ..⟩ hm).collectsFor
        rw [collector_setCollector, if_pos ⟨rfl, hthere⟩, (start_eq_ok hstart).2]
    · intro active hbusy
      simp only [take, hfound, Collector.start, hbusy]
  · refine ⟨(elementary_bracketed.renderBinding w set index).collector, fun hidle => ?_, ?_⟩
    · exact ⟨_, _, rfl, renderBinding_of_active hb hidle⟩
    · exact fun active hbusy => renderBinding_of_busy hb hbusy

/-- A collection that goes on after one inside it has been refused, and that is abandoned when it
has tracked a publisher. -/
theorem tracked_after_refusal :
    let w : Session :=
      { subscribers := #[⟨some "a", .program [] 0 0⟩, ⟨some "b", .program [] 0 0⟩]
        collectors := #[{}]
        names := { subscribers := [("a", 0), ("b", 1)], publishers := [("p", {})]
                   collectors := [("c", 0)] } }
    let rest : List Step := [.edit (.track "c" "p"), .abandon]
    let collection : Step := .collect "c" "a" (.collect "c" "b" [] :: rest)
    let after := take (telling 0) collection w
    after.1 = .abandoned ∧ (after.2.collector 0).active = none ∧
      require .publisher after.2.names.publishers "p" = .ok ⟨[0]⟩ ∧
      ∃ u, During 0 (.step collection) w [] (.ahead rest u []) ∧ CollectsFor u 0 0 := by
  intro w rest collection after
  let begun := (w.hold [.subscriber 0]).setCollector 0 ⟨some 0⟩
  have hinner := (collections_are_bracketed 0 begun).1 "c" "b" 1 0 rfl []
  have houter := (collections_are_bracketed 0 w).1 "c" "a" 0 0 rfl (.collect "c" "b" [] :: rest)
  obtain ⟨-, hmoments⟩ := houter.2.1 rfl (by decide)
  have hrest : During 0 (.step collection) w [] (.ahead rest (begun.emit .collectionRefused) []) :=
    .collect rfl rfl (.stepsTail (hinner.2.2 0 rfl) .steps)
  exact ⟨rfl, congrArg Collector.active (houter.1 0), rfl, _, hrest, hmoments _ _ hrest⟩

end LiveText.Session
