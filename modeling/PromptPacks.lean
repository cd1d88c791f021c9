import PromptPacks.Json.Reader
import PromptPacks.Json.Writer
import PromptPacks.Pack.Document
import PromptPacks.Proofs.Store.Contents
import PromptPacks.Proofs.Template.Oversight
import PromptPacks.Settings
import PromptPacks.Store.Rendering
import PromptPacks.Variable.System
import PromptPacks.Proofs.Store.Effects
import PromptPacks.Proofs.Store.Frame
import PromptPacks.Proofs.Store.Baseline
import PromptPacks.Proofs.Store.PackRules
import PromptPacks.Proofs.Store.Export
import PromptPacks.Proofs.Store.Needs
import PromptPacks.Proofs.Store.Cloning
import PromptPacks.Proofs.Json.RoundTrip
import PromptPacks.Proofs.Pack.Document
import PromptPacks.Proofs.Store.Copies
import PromptPacks.Proofs.Store.Sessions
import PromptPacks.Proofs.Store.Atomicity
import PromptPacks.Proofs.Store.Isolation
import PromptPacks.Proofs.Context.Layers
import PromptPacks.Proofs.Store.Contexts
import PromptPacks.Proofs.Store.Overrides
import PromptPacks.Proofs.Store.Staleness
import PromptPacks.Proofs.Template.Pointing
import PromptPacks.Proofs.Context.Overrides
import PromptPacks.Proofs.Template.Blindness
import PromptPacks.Proofs.Store.Rendering
import PromptPacks.Proofs.Template.RawBlocks
import PromptPacks.Proofs.Template.Substitution
import PromptPacks.Proofs.Template.FunctionCalls
import PromptPacks.Proofs.Store.Deletion
import PromptPacks.Store.VariableRecord
import PromptPacks.Proofs.Store.Definitions
import PromptPacks.Proofs.Store.Repair
import PromptPacks.Proofs.Store.Importing
import PromptPacks.Proofs.Store.Flatness
import PromptPacks.Proofs.Store.Editing
import PromptPacks.Proofs.Store.Resetting
import PromptPacks.Proofs.Store.Creation
import PromptPacks.Proofs.Store.DisplayOrder
import PromptPacks.Proofs.Store.Patching
import PromptPacks.Proofs.Store.StoryValues
import PromptPacks.Proofs.Template.KnownNames
import PromptPacks.Proofs.Text.Buffers
import PromptPacks.Proofs.Digest.NormalForm
import PromptPacks.Proofs.Variable.Batches
import PromptPacks.Proofs.Variable.Histories
import PromptPacks.Proofs.Context.Coercion
import PromptPacks.Proofs.Text.Coordinates
import PromptPacks.Proofs.Template.Places
import PromptPacks.Proofs.Template.Shortening
import PromptPacks.Proofs.Pack.Exchange
import PromptPacks.Proofs.Template.Masking
