import MetalLowering.Main
import MetalLowering.Proofs.Checks
import MetalLowering.Proofs.Identifiers
import MetalLowering.Proofs.Texts
import MetalLowering.Proofs.DeclarationForm
import MetalLowering.Proofs.EntryMark
import MetalLowering.Proofs.Registrations
import MetalLowering.Proofs.StageRun
import MetalLowering.Proofs.BodyLines
import MetalLowering.Proofs.Acceptance
import MetalLowering.Proofs.Passes
import MetalLowering.Proofs.IdentifierStages
import MetalLowering.Proofs.BraceBalance
import MetalLowering.Proofs.ReturnLines
import MetalLowering.Proofs.RepeatedLowering
import MetalLowering.Proofs.StructLines
import MetalLowering.Proofs.StructFields
import MetalLowering.Proofs.LoneHalves
import MetalLowering.Proofs.NestingRoom
import MetalLowering.Proofs.TableHistory
import MetalLowering.Proofs.WordPieces
import MetalLowering.Proofs.MappedWords
import MetalLowering.Proofs.CallGroups
import MetalLowering.Proofs.SamplingCalls
import MetalLowering.Proofs.DeclarationReading
import MetalLowering.Proofs.IdleLines
import MetalLowering.Proofs.SamplerReading
import MetalLowering.Proofs.Stores
import MetalLowering.Proofs.Notes
import MetalLowering.Proofs.Conversions
import MetalLowering.Proofs.CommandAgreement
import MetalLowering.Proofs.CleanMetadata
import MetalLowering.Proofs.MetadataNames
import MetalLowering.Proofs.WatchSteps
import MetalLowering.Proofs.ReportedFailures
import MetalLowering.Proofs.WatchedOutput
import MetalLowering.Proofs.EntryLayouts
import MetalLowering.Proofs.Annotations
import MetalLowering.Proofs.AttributeSlots
import MetalLowering.Proofs.StageBlocks
import MetalLowering.Proofs.PrintedDeclarations
import MetalLowering.Proofs.EmittedLines
import MetalLowering.Proofs.LineBreaks
import MetalLowering.Proofs.SampledParts
import MetalLowering.Proofs.TextureBindings
import MetalLowering.Proofs.SettledLines
