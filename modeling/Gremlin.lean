import Gremlin.CommandLine.Program
import Gremlin.Main
import Gremlin.Proofs.Encounter.Walks
import Gremlin.Proofs.Move.RoundTrip
import Gremlin.Record.Reading
import Gremlin.Report
import Gremlin.Scenario.Reading
import Gremlin.Toml.Reader
import Gremlin.Wave.Reading
import Gremlin.Proofs.Overlay
import Gremlin.Proofs.Pool.Caps
import Gremlin.Proofs.Encounter.Slots
import Gremlin.Proofs.Encounter.Laying
import Gremlin.Proofs.Encounter.Openings
import Gremlin.Proofs.Encounter.Upkeep
import Gremlin.Proofs.Encounter.PassiveOverlays
import Gremlin.Proofs.Encounter.Amplification
import Gremlin.Proofs.Bestiary
import Gremlin.Proofs.Template.WellFormed
import Gremlin.Proofs.Encounter.Broods
import Gremlin.Proofs.Encounter.Burials
import Gremlin.Proofs.Encounter.SummonCaps
import Gremlin.Proofs.Encounter.Chains
import Gremlin.Proofs.Encounter.Journal
import Gremlin.Proofs.Encounter.Forward
import Gremlin.Proofs.Encounter.Scripts
import Gremlin.Proofs.Encounter.Observing
import Gremlin.Proofs.Encounter.Runs
import Gremlin.Proofs.Encounter.Notices
import Gremlin.Proofs.Encounter.Batches
import Gremlin.Proofs.Encounter.Occasions
import Gremlin.Proofs.Encounter.NamedSummons
import Gremlin.Proofs.Encounter.Recitals
import Gremlin.Proofs.Encounter.Replay
import Gremlin.Proofs.Encounter.Beats
import Gremlin.Proofs.Encounter.Lives
import Gremlin.Proofs.Encounter.Conservation
import Gremlin.Proofs.Encounter.Certainty
import Gremlin.Proofs.Encounter.Seeds
import Gremlin.Proofs.Campaign
import Gremlin.Proofs.Encounter.Waves
import Gremlin.Proofs.Overlay.Lifetime
import Gremlin.Proofs.Encounter.Alterations
import Gremlin.Proofs.Encounter.Firings
import Gremlin.Proofs.Encounter.Sustained
import Gremlin.Proofs.Encounter.Moments
import Gremlin.Proofs.Encounter.TimedOverlays
import Gremlin.Proofs.Pool.Shaving
import Gremlin.Proofs.Encounter.Isolation
import Gremlin.Proofs.Instance.Hits
import Gremlin.Proofs.Encounter.Resolutions
import Gremlin.Proofs.Encounter.Stays
import Gremlin.Proofs.Encounter.Carrying
import Gremlin.Proofs.Encounter.Interventions
import Gremlin.Proofs.Encounter.OneShots
import Gremlin.Proofs.Schedule.Shares
import Gremlin.Proofs.Pool.Gains
import Gremlin.Proofs.Move.Faults
import Gremlin.Proofs.Encounter.Reinstatement
import Gremlin.Proofs.Encounter.Takings
import Gremlin.Proofs.Encounter.Repetition
import Gremlin.Proofs.Transition
import Gremlin.Proofs.Adaptive.RoundTrip
import Gremlin.Proofs.Overlay.Table
import Gremlin.Proofs.Board.Order
