import ChatAgents.Agent.Persistent.Polling
import ChatAgents.Main
import ChatAgents.Model.Basic
import ChatAgents.Model.Messages
import ChatAgents.Proofs.Accumulation
import ChatAgents.Proofs.Addresses
import ChatAgents.Proofs.AgentDefinitions
import ChatAgents.Proofs.ArgumentSchemas
import ChatAgents.Proofs.BaseAddresses
import ChatAgents.Proofs.BrokenTurns
import ChatAgents.Proofs.Characters
import ChatAgents.Proofs.ChunkedBodies
import ChatAgents.Proofs.CitationLines
import ChatAgents.Proofs.Consumers
import ChatAgents.Proofs.CutAnswers
import ChatAgents.Proofs.CutRounds
import ChatAgents.Proofs.CutRuns
import ChatAgents.Proofs.Deadlines
import ChatAgents.Proofs.EventFeeds
import ChatAgents.Proofs.Failures
import ChatAgents.Proofs.FirstFailure
import ChatAgents.Proofs.HandlerRuns
import ChatAgents.Proofs.HostedCourses
import ChatAgents.Proofs.HostedUpdates
import ChatAgents.Proofs.Lanes
import ChatAgents.Proofs.Lifecycle
import ChatAgents.Proofs.PairedCalls
import ChatAgents.Proofs.RefusedHosts
import ChatAgents.Proofs.Registries
import ChatAgents.Proofs.RequiredCalls
import ChatAgents.Proofs.RoundStops
import ChatAgents.Proofs.ScopedRuns
import ChatAgents.Proofs.SettledPrograms
import ChatAgents.Proofs.StreamOutcomes
import ChatAgents.Proofs.TextEnds
import ChatAgents.Proofs.UnendedBodies
import ChatAgents.Proofs.UpdateShapes
import ChatAgents.Proofs.UsageTotals
import ChatAgents.Proofs.UserContents
import ChatAgents.Proofs.WrittenEvents
import ChatAgents.Proofs.WrittenReports
