import AdmissionControl.Proofs.Config.Members

namespace AdmissionControl

open Json (Plain retained)

namespace LimiterSpec

private theorem ofJson_toJson (spec : LimiterSpec) : ofJson spec.toJson = .ok spec := by
  rw [← toJsonOf_all, ofJson_toJsonOf, retain_all]

private theorem plain_toJson (depth : Nat) (spec : LimiterSpec) :
    Plain (depth + 1) spec.toJson := by
  rw [← toJsonOf_all]
  exact plain_toJsonOf _ depth spec

end LimiterSpec

namespace BreakerSpec

private theorem ofJson_toJson (spec : BreakerSpec) : ofJson spec.toJson = .ok spec := by
  rw [← toJsonOf_all, ofJson_toJsonOf, retain_all]

private theorem plain_toJson (depth : Nat) (spec : BreakerSpec) :
    Plain (depth + 1) spec.toJson := by
  rw [← toJsonOf_all]
  exact plain_toJsonOf _ depth spec

end BreakerSpec

namespace AdmissionConfig

variable {limiters : List Json} {specs : List LimiterSpec} {breaker : Json}
  {spec? : Option BreakerSpec}

def assemble (limiters : List Json) (breaker : Json) : Json :=
  .ofMembers (fields.zip [.array limiters .closed, breaker])

theorem ofJson_assemble (each : limiters.mapM LimiterSpec.ofJson = .ok specs)
    (last : breaker.toOption BreakerSpec.ofJson = .ok spec?) :
    ofJson (assemble limiters breaker) = .ok { limiters := specs, circuitBreaker := spec? } := by
  have all : limitersOfJson (.array limiters .closed) = .ok specs := by
    rw [limitersOfJson, each]
    rfl
  have first : set {} "limiters" (.array limiters .closed) = some (.ok { limiters := specs }) := by
    rw [set, all]
    rfl
  have second : set { limiters := specs } "circuit_breaker" breaker =
      some (.ok { limiters := specs, circuitBreaker := spec? }) := by
    rw [set, last]
    rfl
  have taken (unknown : String → Parsed Unit) :
      Json.takeMembers set unknown {} [] (fields.zip [.array limiters .closed, breaker]) =
        .ok { limiters := specs, circuitBreaker := spec? } := by
    have distinct : ((fields.zip [.array limiters .closed, breaker]).map Prod.fst).Nodup := by
      simp [fields]
    rw [Json.takeMembers_eq_foldlM distinct fun _ _ => List.not_mem_nil]
    have later : Json.takeMember set unknown { limiters := specs } ("circuit_breaker", breaker) =
        .ok { limiters := specs, circuitBreaker := spec? } := by
      rw [Json.takeMember, second]
    simp only [fields, List.zip_cons_cons, List.zip_nil_left, List.foldlM_cons, List.foldlM_nil,
      Json.takeMember, first]
    exact congrArg (· >>= pure) later
  rw [assemble, Json.ofMembers, ofJson, Json.toRecord, taken]
  rfl

theorem plain_assemble (each : ∀ limiter ∈ limiters, Plain 125 limiter)
    (last : Plain 126 breaker) : Plain Json.maxDepth (assemble limiters breaker) := by
  have inner : ∀ member ∈ fields.zip [.array limiters .closed, breaker], Plain 126 member.2 := by
    simp only [fields, List.zip_cons_cons, List.zip_nil_left, List.forall_mem_cons]
    exact ⟨.array each, last, nofun⟩
  exact .object inner

theorem parse_text_of_plain {json : Json} {config : AdmissionConfig}
    (plain : Plain Json.maxDepth json) (reads : ofJson json = .ok config) :
    parse json.text = .ok config := by
  rw [parse, Json.parseText, Json.ofText_text plain]
  simp only [reads]
  rfl

private theorem toJson_eq_assemble (config : AdmissionConfig) :
    config.toJson =
      assemble (config.limiters.map LimiterSpec.toJson)
        (.ofOption BreakerSpec.toJson config.circuitBreaker) :=
  rfl

theorem ofJson_toJson (config : AdmissionConfig) : ofJson config.toJson = .ok config := by
  have limiters : (config.limiters.map LimiterSpec.toJson).mapM LimiterSpec.ofJson =
      .ok config.limiters := by
    have each : LimiterSpec.ofJson ∘ LimiterSpec.toJson = pure := funext LimiterSpec.ofJson_toJson
    rw [List.mapM_map, each, List.mapM_pure, List.map_id']
    rfl
  have breaker : (Json.ofOption BreakerSpec.toJson config.circuitBreaker).toOption
      BreakerSpec.ofJson = .ok config.circuitBreaker :=
    Json.toOption_ofOption _ _ BreakerSpec.ofJson_toJson (fun _ => nofun) _
  rw [toJson_eq_assemble, ofJson_assemble limiters breaker]

theorem plain_toJson (config : AdmissionConfig) : Plain Json.maxDepth config.toJson := by
  refine plain_assemble ?_ (Json.plain_ofOption (BreakerSpec.plain_toJson 125) _)
  intro limiter inside
  obtain ⟨spec, -, rfl⟩ := List.mem_map.mp inside
  exact spec.plain_toJson 124

/-- Every description is read back from its text, and reading what was read changes nothing. -/
theorem text_round_trip :
    (∀ config : AdmissionConfig, parse config.text = .ok config) ∧
      ∀ source, (parse source >>= fun config => parse config.text) = parse source := by
  have reads (config : AdmissionConfig) : parse config.text = .ok config :=
    parse_text_of_plain config.plain_toJson config.ofJson_toJson
  refine ⟨reads, fun source => ?_⟩
  simp only [reads]
  exact bind_pure (parse source)

end AdmissionConfig

end AdmissionControl
