import Gremlin.Record

set_option autoImplicit false

namespace Gremlin.Catalog

def gnats : List Record := [
  { templateId := "basic_gnat",
    description := "Pure fodder - clogs targeting, minimal threat", archetype := "fodder",
    sizeCategory := "gnat", maxHealth := 1, movePattern := "none" },
  { templateId := "barrier_gnat",
    description := "Barrier-protected fodder that requires 2 hits",
    archetype := "protected_fodder", sizeCategory := "gnat", maxHealth := 1,
    hasBarrier := true, barrierCount := 1, movePattern := "none" },
  { templateId := "drain_gnat",
    description := "Minimal disruption that becomes annoying in groups",
    archetype := "annoying_fodder", sizeCategory := "gnat", maxHealth := 1,
    moves := "ticks=8,drain_random=1", movePattern := "cycle" },
  { templateId := "constricting_barrier_gnat",
    description := "Barrier-protected resource constraint",
    archetype := "protected_constraint", sizeCategory := "gnat", maxHealth := 1,
    hasBarrier := true, barrierCount := 1, moves := "ticks=0,max_resource_soft_cap=5",
    movePattern := "passive" },
  { templateId := "draining_barrier_gnat",
    description := "Protected persistent annoyance that drains forces",
    archetype := "protected_disruption", sizeCategory := "gnat", maxHealth := 1,
    hasBarrier := true, barrierCount := 1, moves := "ticks=6,drain_random=2",
    movePattern := "single" },
  { templateId := "toxic_barrier_gnat",
    description := "Barrier-protected gremlin that limits special resources",
    archetype := "protected_constraint", sizeCategory := "gnat", maxHealth := 1,
    hasBarrier := true, barrierCount := 1, moves := "ticks=0,all_forces_soft_cap=2",
    movePattern := "passive" },
  { templateId := "breeding_barrier_gnat",
    description := "Self-replacing barrier-protected swarm source",
    archetype := "protected_multiplier", sizeCategory := "gnat", maxHealth := 1,
    hasBarrier := true, barrierCount := 1, summonCap := 3,
    moves := "ticks=10,summon=basic_gnat", movePattern := "single" },
  { templateId := "breeding_gnat", description := "Self-sustaining annoyance that reproduces",
    archetype := "self_replacing_fodder", sizeCategory := "gnat", maxHealth := 1,
    summonCap := 2, moves := "ticks=12,summon=basic_gnat", movePattern := "cycle" }
]

def small : List Record := [
  { templateId := "dust_mite",
    description := "Tutorial enemy that teaches soft caps and spending pressure",
    archetype := "rush_threat", sizeCategory := "small", maxHealth := 8,
    moves := "ticks=0,heat_soft_cap=4", movePattern := "passive" },
  { templateId := "gear_tick",
    description := "Makes your clockwork sluggish with timing penalties",
    archetype := "disruption_threat", sizeCategory := "small", maxHealth := 12,
    moves := "ticks=0,card_cost_penalty=1", movePattern := "passive" },
  { templateId := "rust_speck", description := "Small but tough gremlin with high armor",
    archetype := "turtle_threat", sizeCategory := "small", maxHealth := 6, maxArmor := 3,
    moves := "ticks=0,precision_soft_cap=3", movePattern := "passive" },
  { templateId := "spark_flea",
    description := "Forces card discards with electrical interference",
    archetype := "hand_disruption", sizeCategory := "small", maxHealth := 10,
    moves := "ticks=6,force_discard=1", movePattern := "cycle" },
  { templateId := "precision_mite",
    description := "Tiny gremlin that makes precision attacks ineffective",
    archetype := "precision_counter", sizeCategory := "small", maxHealth := 14,
    moves := "ticks=0,precision_hard_cap=2", movePattern := "passive" },
  { templateId := "siphon_tick", description := "Slowly drains all force types equally",
    archetype := "gradual_drain", sizeCategory := "small", maxHealth := 12,
    moves := "ticks=10,drain_all_types=1", movePattern := "cycle" }
]

def medium : List Record := [
  { templateId := "spring_snapper",
    description := "Increasingly disrupts Momentum with escalating drains",
    archetype := "scaling_threat", sizeCategory := "medium", maxHealth := 35, maxArmor := 1,
    moves := "ticks=8,drain_momentum=2|ticks=6,drain_momentum=3|ticks=4,drain_momentum=4",
    movePattern := "cycle" },
  { templateId := "oil_thief",
    description := "Alternates between hard caps and draining largest forces",
    archetype := "turtle_rush_combo", sizeCategory := "medium", maxHealth := 28,
    maxShields := 5, shieldRegen := 1, shieldRegenMax := 8,
    moves := "ticks=10,all_forces_hard_cap=6|ticks=3,drain_largest=3|ticks=3,drain_largest=3|ticks=3,drain_largest=3",
    movePattern := "sequence" },
  { templateId := "chaos_imp",
    description := "Amplifies other gremlin disruptions and grants shields",
    archetype := "synergy_threat", sizeCategory := "medium", maxHealth := 25, maxArmor := 2,
    moves := "ticks=0,amplify_drains=1|ticks=5,all_gremlins_gain_shields=3",
    movePattern := "cycle", moveTransitions := "0>1:after_10_ticks" },
  { templateId := "gnat_spawner", description := "Spawns increasing waves of Dust Mites",
    archetype := "summoning_threat", sizeCategory := "medium", maxHealth := 30,
    summonCap := 4,
    moves := "ticks=6,summon=dust_mite|ticks=8,summon=dust_mite,summon=dust_mite|ticks=10,summon=dust_mite,summon=dust_mite,summon=dust_mite",
    movePattern := "cycle" },
  { templateId := "momentum_thief",
    description := "Specializes in stealing and using your momentum",
    archetype := "momentum_specialist", sizeCategory := "medium", maxHealth := 32,
    moves := "ticks=4,drain_momentum=3,self_gain_shields=3|ticks=6,momentum_soft_cap=5",
    movePattern := "cycle" },
  { templateId := "feedback_loop", description := "Makes cards more expensive each turn",
    archetype := "escalating_cost", sizeCategory := "medium", maxHealth := 36,
    moves := "ticks=6,card_cost_penalty=1|ticks=5,card_cost_penalty=2|ticks=4,card_cost_penalty=3",
    movePattern := "sequence" },
  { templateId := "static_skitter",
    description := "Erratic pest that lashes out at whatever you hold most or least of",
    archetype := "erratic_drain", sizeCategory := "medium", maxHealth := 24,
    moves := "ticks=3,drain_largest=2|ticks=3,drain_smallest=2|ticks=5,shuffle_hand",
    movePattern := "random", moveWeights := "3,2,1" }
]

def large : List Record := [
  { templateId := "gear_grinder",
    description := "Massive gremlin that becomes stronger and tougher over time",
    archetype := "turtle_berserker", sizeCategory := "large", maxHealth := 75, maxArmor := 6,
    moves := "ticks=12,balance_soft_cap=2|ticks=4,drain_largest=5,self_gain_armor=2|ticks=3,drain_largest=6,card_cost_penalty=2",
    movePattern := "sequence" },
  { templateId := "time_nibbler",
    description := "Ethereal gremlin with layered temporal disruptions",
    archetype := "disruption_turtle", sizeCategory := "large", maxHealth := 65, maxArmor := 2,
    maxShields := 10, shieldRegen := 2, shieldRegenMax := 15, damageCap := 8,
    moves := "ticks=15,all_forces_decay=1|ticks=10,hand_size_limit=6,no_card_draw|ticks=2,force_discard=1|ticks=2,force_discard=1|ticks=2,force_discard=1|ticks=2,force_discard=1",
    movePattern := "sequence" },
  { templateId := "echo_chamber",
    description := "Cannot be targeted while other gremlins exist",
    archetype := "protected_synergy", sizeCategory := "large", maxHealth := 55,
    canBeTargeted := false, targetProtectionCondition := "while_other_gremlins_exist",
    summonPosition := "top", summonCap := 3, moves := "ticks=4,summon=random_medium",
    movePattern := "cycle" },
  { templateId := "mirror_warden",
    description := "Reflects damage while spawning protective minions",
    archetype := "reflect_summoner", sizeCategory := "large", maxHealth := 60,
    reflectPercent := 10, canBeTargeted := false,
    targetProtectionCondition := "while_summons_alive", summonCap := 3,
    moves := "ticks=8,summon=barrier_gnat|ticks=6,all_gremlins_gain_shields=4|ticks=4,reflect_increase=25%",
    movePattern := "cycle" },
  { templateId := "entropic_mass",
    description := "Chaotic blob that caps entropy then decays everything",
    archetype := "entropy_controller", sizeCategory := "large", maxHealth := 85,
    moves := "ticks=12,entropy_hard_cap=2|ticks=4,all_forces_decay=1,drain_entropy=3|ticks=2,all_forces_decay=2",
    movePattern := "sequence" }
]

def elites : List Record := [
  { templateId := "constraint_engine", displayName := some "The Constraint Engine",
    description := "Complex mechanism imposing multiple constraint types",
    archetype := "multi_constraint_master", sizeCategory := "elite", maxHealth := 95,
    maxArmor := 3, maxShields := 8, shieldRegen := 1, shieldRegenMax := 12,
    reflectPercent := 25,
    moves := "ticks=8,total_resources_hard_cap=10|ticks=6,max_resource_hard_cap=4|ticks=3,drain_all_types=2|ticks=3,drain_all_types=2|ticks=3,drain_all_types=2|ticks=5,all_previous_constraints",
    movePattern := "sequence" },
  { templateId := "temporal_glutton",
    description := "Spawns increasingly dangerous threats over time",
    archetype := "escalating_summoner", sizeCategory := "elite", maxHealth := 110,
    maxArmor := 4, maxShields := 15, shieldRegen := 3, shieldRegenMax := 20, summonCap := 5,
    moves := "ticks=8,summon=random_small|ticks=6,summon=random_medium|ticks=6,summon=random_medium,summon=random_medium",
    movePattern := "cycle" },
  { templateId := "balanced_paradox", displayName := some "The Balanced Paradox",
    description := "Perfectly balanced mechanism that resists execution",
    archetype := "anti_execution", sizeCategory := "elite", maxHealth := 85, maxArmor := 8,
    executeImmunityThreshold := 25,
    moves := "ticks=0,entropy_hard_cap=1,balance_hard_cap=1|ticks=4,drain_balance=4,drain_entropy=4|ticks=0,self_gain_armor=3,all_forces_soft_cap=8",
    movePattern := "cycle", moveTransitions := "0>1:after_6_ticks|2>0:after_6_ticks" }
]

/-- Bosses, each phase a gremlin of its own. -/
def bosses : List Record := [
  { templateId := "rust_king_phase_1", displayName := some "The Rust King",
    description := "Phase 1: The Spreading Corruption - master of decay and reinforcement",
    archetype := "phase_transition_boss", sizeCategory := "boss", maxHealth := 150,
    maxArmor := 10,
    moves := "ticks=0,all_forces_decay=2|ticks=10,total_resources_hard_cap=15|ticks=3,all_gremlins_gain_armor=2|ticks=3,all_gremlins_gain_armor=2|ticks=3,all_gremlins_gain_armor=2|ticks=3,all_gremlins_gain_armor=2",
    movePattern := "cycle", onDeath := "summon=rust_king_phase_2" },
  { templateId := "rust_king_phase_2", displayName := some "The Rust King (Phase 2)",
    description := "Phase 2: The Desperate Stand - reduced armor but massive shields",
    archetype := "phase_2_boss", sizeCategory := "boss", maxHealth := 100, maxArmor := 5,
    maxShields := 20, shieldRegen := 4, shieldRegenMax := 25,
    moves := "ticks=2,drain_largest=3,drain_smallest=3,hand_size_limit=7|ticks=4,force_discard=2",
    movePattern := "cycle", moveTransitions := "1>0:after_3_triggers" },
  { templateId := "chronophage",
    description := "Ultimate manifestation of temporal disruption with HP-based moves",
    archetype := "ultimate_time_master", sizeCategory := "boss", maxHealth := 180,
    maxArmor := 12, maxShields := 30, shieldRegen := 5, shieldRegenMax := 40, damageCap := 12,
    moves := "ticks=2,card_cost_penalty=3,all_forces_decay=3|ticks=2,drain_all_types=4|ticks=6,no_draw,shuffle_hand|ticks=1,force_discard=1|ticks=0,remove_constraints,self_gain_armor=5",
    movePattern := "hp_based",
    moveTransitions := "0>1:at_75_percent_hp|1>2:at_50_percent_hp|2>3:at_25_percent_hp|3>4:at_10_percent_hp" },
  { templateId := "grand_saboteur", displayName := some "The Grand Saboteur",
    description := "Ultimate adaptive threat that learns player patterns",
    archetype := "adaptive_counter_ai", sizeCategory := "boss", maxHealth := 200,
    maxArmor := 8,
    moves := "ticks=6,random_force_hard_cap=3|ticks=4,copy_recent_card_effect|ticks=5,heat_hard_cap=2,drain_heat=3|ticks=5,card_cost_penalty=2,hand_size_limit=5",
    movePattern := "adaptive",
    adaptiveRules := "damage_heat>=20:2|execution_attempts>=2:3|cards_played>=8:1",
    adaptiveCheckTicks := 10 }
]

def records : List Record := gnats ++ small ++ medium ++ large ++ elites ++ bosses

end Gremlin.Catalog
