import DashcamStats.Bundle.Json

namespace DashcamStats.Reconciliation

open Bundle

structure SignalSpec where
  name : String
  -- `attribute`
  column : String
  label : String
  pid : Option ℕ
  tier : String
  every : ℕ
  provenance : String := "measured"
  discrete : Bool := false
  cycleS : ℚ := 5
  deriving DecidableEq

def SignalSpec.cadenceS (spec : SignalSpec) : ℚ := spec.cycleS * spec.every

def SIGNALS : List SignalSpec :=
  [{ name := "engine_load", column := "engine_load_pct", label := "Engine load"
     pid := some 0x04, tier := "fast", every := 1 },
   { name := "engine_rpm", column := "engine_rpm", label := "Engine RPM"
     pid := some 0x0C, tier := "fast", every := 1 },
   { name := "vehicle_speed", column := "vehicle_speed_kmh", label := "Vehicle speed"
     pid := some 0x0D, tier := "fast", every := 1 },
   { name := "timing_advance", column := "timing_advance_deg", label := "Timing advance"
     pid := some 0x0E, tier := "medium", every := 3 },
   { name := "mass_air_flow", column := "mass_air_flow_g_s", label := "Mass air flow"
     pid := some 0x10, tier := "medium", every := 3 },
   { name := "throttle_position", column := "throttle_position_pct", label := "Throttle"
     pid := some 0x11, tier := "medium", every := 3 },
   { name := "fuel_system_1", column := "fuel_system_status", label := "Fuel system"
     pid := some 0x03, tier := "medium", every := 3, discrete := true },
   { name := "coolant_temperature", column := "coolant_temperature_c", label := "Coolant"
     pid := some 0x05, tier := "medium", every := 3 },
   { name := "short_term_fuel_trim_bank_1", column := "short_term_fuel_trim_bank_1_pct"
     label := "Short-term fuel trim", pid := some 0x06, tier := "medium", every := 3 },
   { name := "long_term_fuel_trim_bank_1", column := "long_term_fuel_trim_bank_1_pct"
     label := "Long-term fuel trim", pid := some 0x07, tier := "medium", every := 3 },
   { name := "intake_air_temperature", column := "intake_air_temperature_c"
     label := "Intake air", pid := some 0x0F, tier := "medium", every := 3 },
   { name := "oxygen_sensor_1_voltage", column := "oxygen_sensor_1_voltage_v"
     label := "Oxygen sensor 1 voltage", pid := some 0x14, tier := "medium", every := 3 },
   { name := "oxygen_sensor_1_short_term_fuel_trim"
     column := "oxygen_sensor_1_short_term_fuel_trim_pct", label := "Oxygen sensor 1 trim"
     pid := some 0x14, tier := "medium", every := 3 },
   { name := "oxygen_sensor_2_voltage", column := "oxygen_sensor_2_voltage_v"
     label := "Oxygen sensor 2 voltage", pid := some 0x15, tier := "medium", every := 3 },
   { name := "oxygen_sensor_2_short_term_fuel_trim"
     column := "oxygen_sensor_2_short_term_fuel_trim_pct", label := "Oxygen sensor 2 trim"
     pid := some 0x15, tier := "medium", every := 3 },
   { name := "oxygen_sensors_present", column := "oxygen_sensors_present"
     label := "Oxygen sensors present", pid := some 0x13, tier := "slow", every := 12
     discrete := true },
   { name := "obd_standard", column := "obd_standard", label := "OBD standard"
     pid := some 0x1C, tier := "slow", every := 12, discrete := true },
   { name := "distance_with_mil", column := "distance_with_mil_km"
     label := "Distance with MIL", pid := some 0x21, tier := "slow", every := 12 },
   { name := "adapter_voltage", column := "adapter_voltage_v", label := "Adapter voltage"
     pid := none, tier := "fast", every := 1 },
   { name := "estimated_fuel_rate", column := "estimated_fuel_rate_l_h"
     label := "Estimated fuel rate", pid := none, tier := "medium", every := 3
     provenance := "derived" },
   { name := "estimated_fuel_consumption", column := "estimated_fuel_consumption_l_100km"
     label := "Estimated fuel consumption", pid := none, tier := "medium", every := 3
     provenance := "derived" }]

abbrev Phases := List (ℕ × ℕ)

def POLL_PHASES_V2 : Phases :=
  [(0x03, 0), (0x05, 1), (0x06, 2), (0x07, 0), (0x0F, 1), (0x14, 2), (0x15, 0), (0x13, 0),
   (0x1C, 4), (0x21, 8)]

def POLL_PHASES_V3 : Phases :=
  [(0x0E, 0), (0x10, 1), (0x11, 2), (0x03, 0), (0x05, 1), (0x06, 2), (0x07, 0), (0x0F, 1),
   (0x14, 2), (0x15, 0), (0x13, 0), (0x1C, 4), (0x21, 8)]

def _V2_FAST_NAMES : List String :=
  ["timing_advance", "mass_air_flow", "throttle_position", "estimated_fuel_rate",
   "estimated_fuel_consumption"]

def SIGNALS_V2 : List SignalSpec := SIGNALS.map fun spec =>
  if spec.name ∈ _V2_FAST_NAMES then { spec with tier := "fast", every := 1 } else spec

def _V4_STATIC_NAMES : List String := ["oxygen_sensors_present", "obd_standard"]

def SIGNALS_V4 : List SignalSpec :=
  (SIGNALS.map fun spec =>
    if spec.name ∈ _V4_STATIC_NAMES then
      { spec with tier := "static", every := 1, provenance := "static" }
    else spec) ++
  [{ name := "mil_on", column := "mil_on", label := "Check-engine lamp"
     pid := some 0x01, tier := "slow", every := 12, discrete := true },
   { name := "dtc_count", column := "dtc_count", label := "Stored trouble codes"
     pid := some 0x01, tier := "slow", every := 12 }]

def POLL_PHASES_V4 : Phases :=
  POLL_PHASES_V3.filter (fun entry => entry.1 ∉ [0x13, 0x1C, 0x21]) ++ [(0x21, 0), (0x01, 4)]

def POLL_PHASES_V5 : Phases :=
  POLL_PHASES_V4.filter (fun entry => entry.1 ∉ [0x21, 0x01]) ++ [(0x21, 1), (0x01, 5)]

def _V8_FAST_NAMES : List String :=
  ["engine_rpm", "vehicle_speed", "mass_air_flow", "estimated_fuel_rate",
   "estimated_fuel_consumption"]

def SIGNALS_V8 : List SignalSpec := SIGNALS_V4.map fun spec => { spec with
  cycleS := 3
  every :=
    if spec.provenance = "static" ∨ spec.name ∈ _V8_FAST_NAMES then 1
    else if spec.name = "adapter_voltage" then 2
    else if spec.name = "engine_load" then 5
    else 20
  tier :=
    if spec.provenance = "static" then spec.tier
    else if spec.name ∈ _V8_FAST_NAMES then "fast"
    else if spec.name = "engine_load" ∨ spec.name = "adapter_voltage" then "medium"
    else "slow" }

def POLL_PHASES_V8 : Phases :=
  [(0x0E, 1), (0x11, 2), (0x03, 3), (0x05, 4), (0x06, 5), (0x07, 6), (0x0F, 7), (0x14, 8),
   (0x15, 9), (0x21, 10), (0x01, 11)]

def _POLL_PLAN_SPECS : List (ℤ × List SignalSpec × Phases) :=
  [(2, SIGNALS_V2, POLL_PHASES_V2), (3, SIGNALS, POLL_PHASES_V3),
   (4, SIGNALS_V4, POLL_PHASES_V4), (5, SIGNALS_V4, POLL_PHASES_V5),
   (6, SIGNALS_V4, POLL_PHASES_V5), (7, SIGNALS_V4, POLL_PHASES_V5),
   (8, SIGNALS_V8, POLL_PHASES_V8)]

def specsForPollPlan : Json → ℤ × List SignalSpec
  | .int value => match _POLL_PLAN_SPECS.lookup value with
    | some (specs, _) => (value, specs)
    | none => (1, SIGNALS_V2)
  | _ => (1, SIGNALS_V2)

def SignalSpec.sourcePid (spec : SignalSpec) : Option ℕ :=
  if spec.name ∈ ["estimated_fuel_rate", "estimated_fuel_consumption"] then some 0x10
  else spec.pid

def signalPhase (spec : SignalSpec) (phases : Phases) : ℕ :=
  (spec.sourcePid.bind fun pid => phases.lookup pid).getD 0

theorem specsForPollPlan_mem (plan : Json) : (specsForPollPlan plan).2 ∈
    [SIGNALS_V2, SIGNALS, SIGNALS_V4, SIGNALS_V8] := by
  unfold specsForPollPlan
  split
  · split
    · rename_i value _ specs phases found
      have among : (value, specs, phases) ∈ _POLL_PLAN_SPECS := by
        obtain ⟨front, back, whole, -⟩ := List.lookup_eq_some_iff.mp found
        rw [whole]
        simp
      simp only [_POLL_PLAN_SPECS, List.mem_cons, Prod.mk.injEq, List.not_mem_nil,
        or_false] at among
      obtain ⟨-, rfl, -⟩ | ⟨-, rfl, -⟩ | ⟨-, rfl, -⟩ | ⟨-, rfl, -⟩ | ⟨-, rfl, -⟩ | ⟨-, rfl, -⟩ |
        ⟨-, rfl, -⟩ := among <;> simp
    · simp
  · simp

theorem every_of_mem {plan : Json} {spec : SignalSpec} (member : spec ∈ (specsForPollPlan plan).2) :
    0 < spec.every ∧ spec.every ≤ 20 := by
  have all : ∀ specs ∈ [SIGNALS_V2, SIGNALS, SIGNALS_V4, SIGNALS_V8], ∀ spec ∈ specs,
      0 < spec.every ∧ spec.every ≤ 20 := by
    decide
  exact all _ (specsForPollPlan_mem plan) spec member

end DashcamStats.Reconciliation
