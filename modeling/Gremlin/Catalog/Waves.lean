import Gremlin.Wave

set_option autoImplicit false

namespace Gremlin.Catalog

def firstAct : List Wave := [
  { waveId := "wave_1a", displayName := "First Contact", act := 1, difficulty := 13,
    difficultyTier := "Trivial", archetype := "Rush Threat - Single Constraint",
    strategyHint := "Teaches soft caps and resource spending pressure",
    gremlins := ["dust_mite"] },
  { waveId := "wave_1b", displayName := "Mechanical Disruption", act := 1, difficulty := 17,
    difficultyTier := "Easy", archetype := "Disruption Threat - Timing Penalty",
    strategyHint := "Teaches timing efficiency and card sequencing",
    gremlins := ["gear_tick"] },
  { waveId := "wave_1c", displayName := "Armored Introduction", act := 1, difficulty := 17,
    difficultyTier := "Easy", archetype := "Turtle Threat - Armor Tutorial",
    strategyHint := "Teaches armor mechanics and sustained damage",
    gremlins := ["rust_speck"] },
  { waveId := "wave_1d", displayName := "Swarm Basics", act := 1, difficulty := 3,
    difficultyTier := "Trivial", archetype := "Pure Swarm - AOE Tutorial",
    strategyHint := "Teaches AOE vs single-target efficiency",
    gremlins := ["basic_gnat", "basic_gnat", "basic_gnat"] },
  { waveId := "wave_1e", displayName := "Protected Pest", act := 1, difficulty := 14,
    difficultyTier := "Trivial", archetype := "Protected Constraint - Multi-Hit Tutorial",
    strategyHint := "Teaches multi-hit strategies vs barriers",
    gremlins := ["constricting_barrier_gnat"] },
  { waveId := "wave_1f", displayName := "Escalating Pressure", act := 1, difficulty := 42,
    difficultyTier := "Medium", archetype := "Scaling Threat - Time Pressure",
    strategyHint := "Teaches elimination priority and timing",
    gremlins := ["spring_snapper"] }
]

def secondAct : List Wave := [
  { waveId := "wave_2a", displayName := "Turtle and Rush", act := 2, difficulty := 69,
    difficultyTier := "Hard", archetype := "Turtle + Rush Combination",
    strategyHint := "Tests priority targeting - rush vs turtle elimination",
    gremlins := ["oil_thief", "dust_mite", "dust_mite"] },
  { waveId := "wave_2b", displayName := "Synergistic Chaos", act := 2, difficulty := 86,
    difficultyTier := "Hard", archetype := "Synergy + Scaling Threat",
    strategyHint := "Tests understanding of force multiplication",
    gremlins := ["chaos_imp", "spring_snapper"] },
  { waveId := "wave_2c", displayName := "The Gnat Problem", act := 2, difficulty := 57,
    difficultyTier := "Medium", archetype := "Summoning + Protection",
    strategyHint := "Tests Green (Attack Most HP) vs multi-hit strategies",
    gremlins := ["gnat_spawner", "barrier_gnat", "barrier_gnat", "barrier_gnat"] },
  { waveId := "wave_2d", displayName := "Resource Stranglehold", act := 2, difficulty := 42,
    difficultyTier := "Medium", archetype := "Multi-Constraint Swarm",
    strategyHint := "Tests multi-hit efficiency vs protected constraints",
    gremlins := ["constricting_barrier_gnat", "draining_barrier_gnat", "toxic_barrier_gnat"] },
  { waveId := "wave_2e", displayName := "Armored Assault", act := 2, difficulty := 121,
    difficultyTier := "Nightmare", archetype := "Heavy Turtle + Support",
    strategyHint := "Tests pierce strategies and sustained damage",
    gremlins := ["gear_grinder", "rust_speck", "rust_speck"] },
  { waveId := "wave_2f", displayName := "The Spawning Nightmare", act := 2, difficulty := 171,
    difficultyTier := "Nightmare", archetype := "Elite Summoner + Protected Support",
    strategyHint := "Ultimate summoning challenge with protection",
    gremlins := ["temporal_glutton", "breeding_barrier_gnat"] }
]

def thirdAct : List Wave := [
  { waveId := "wave_3a", displayName := "The Constraint Engine", act := 3, difficulty := 170,
    difficultyTier := "Nightmare", archetype := "Multi-System Controller + Protection",
    strategyHint := "Tests mastery of all constraint types",
    gremlins := ["constraint_engine", "constricting_barrier_gnat", "constricting_barrier_gnat"] },
  { waveId := "wave_3b", displayName := "Echoing Madness", act := 3, difficulty := 172,
    difficultyTier := "Nightmare", archetype := "Protected Summoner + Synergy + Turtle",
    strategyHint := "Complex priority puzzle with protection mechanics",
    gremlins := ["echo_chamber", "chaos_imp", "oil_thief"] },
  { waveId := "boss_1", displayName := "The Rust King's Domain", act := 3, difficulty := 399,
    difficultyTier := "Nightmare+", archetype := "Phase Transition + Scaling Support",
    strategyHint := "Ultimate resource management + adaptation test",
    gremlins := ["rust_king_phase_1", "spring_snapper", "spring_snapper"], isBoss := true },
  { waveId := "boss_2", displayName := "Temporal Collapse", act := 3, difficulty := 414,
    difficultyTier := "Nightmare+", archetype := "Ultimate Time Control + Support",
    strategyHint := "Tests all timing and constraint management skills",
    gremlins := ["chronophage", "time_nibbler"], isBoss := true }
]

def waves : List Wave := firstAct ++ secondAct ++ thirdAct

def wave? (id : String) : Option Wave := waves.find? (·.waveId = id)

end Gremlin.Catalog
