import ShaderEffects.Annotation.Directive
import ShaderEffects.Annotation.Value
import ShaderEffects.Arena
import ShaderEffects.Clock
import ShaderEffects.Decimal.Scaled
import ShaderEffects.Decimal.Shortest
import ShaderEffects.Device.Basic
import ShaderEffects.Device.Error
import ShaderEffects.Device.Gpu.Adapter
import ShaderEffects.Device.Gpu.Basic
import ShaderEffects.Device.Gpu.Checked
import ShaderEffects.Device.Gpu.Judged
import ShaderEffects.Device.Gpu.Prelude
import ShaderEffects.Device.Gpu.Request
import ShaderEffects.Device.Headless
import ShaderEffects.Device.Surface
import ShaderEffects.Effect.Basic
import ShaderEffects.Effect.Compile
import ShaderEffects.Effect.Description
import ShaderEffects.Effect.Error
import ShaderEffects.Engine.Basic
import ShaderEffects.Engine.Load
import ShaderEffects.File.Lookup
import ShaderEffects.File.Tree
import ShaderEffects.File.Variables
import ShaderEffects.Geometry
import ShaderEffects.Image.Bmp
import ShaderEffects.Image.Bytes
import ShaderEffects.Image.Checksum
import ShaderEffects.Image.Dds
import ShaderEffects.Image.Extension
import ShaderEffects.Image.Farbfeld
import ShaderEffects.Image.Format
import ShaderEffects.Image.Gif
import ShaderEffects.Image.Hdr
import ShaderEffects.Image.Ico
import ShaderEffects.Image.Jpeg
import ShaderEffects.Image.Numeral
import ShaderEffects.Image.OpenExr
import ShaderEffects.Image.Png
import ShaderEffects.Image.Pnm
import ShaderEffects.Image.Qoi
import ShaderEffects.Image.Size
import ShaderEffects.Image.Tga
import ShaderEffects.Image.Tiff
import ShaderEffects.Image.WebP
import ShaderEffects.Json.Cursor
import ShaderEffects.Json.Error
import ShaderEffects.Json.Reader
import ShaderEffects.Json.Scalar
import ShaderEffects.Json.Value
import ShaderEffects.Json.Writer
import ShaderEffects.Link.Basic
import ShaderEffects.Link.Error
import ShaderEffects.Link.Sampler
import ShaderEffects.Link.Target
import ShaderEffects.Link.Technique
import ShaderEffects.Notice
import ShaderEffects.Parameter.Basic
import ShaderEffects.Parameter.Store
import ShaderEffects.Parameter.Type
import ShaderEffects.Program.Compiler
import ShaderEffects.Program.ConstantTable
import ShaderEffects.Program.Error
import ShaderEffects.Program.Identifier
import ShaderEffects.Program.Profile
import ShaderEffects.Program.Stage
import ShaderEffects.Proofs.AcceptedDraws
import ShaderEffects.Proofs.AdditiveLoads
import ShaderEffects.Proofs.ArenaRuns
import ShaderEffects.Proofs.Attaching
import ShaderEffects.Proofs.AttachmentRuns
import ShaderEffects.Proofs.Attachments
import ShaderEffects.Proofs.BindGroups
import ShaderEffects.Proofs.BlankTargets
import ShaderEffects.Proofs.BoundStages
import ShaderEffects.Proofs.BroughtTextures
import ShaderEffects.Proofs.CachedPrograms
import ShaderEffects.Proofs.CaughtUpParameters
import ShaderEffects.Proofs.ChosenTechniques
import ShaderEffects.Proofs.CompileFaults
import ShaderEffects.Proofs.CompiledEffects
import ShaderEffects.Proofs.CompiledPrograms
import ShaderEffects.Proofs.ConstantSlots
import ShaderEffects.Proofs.CurrentConstants
import ShaderEffects.Proofs.DeclarationOrder
import ShaderEffects.Proofs.DeviceAgreement
import ShaderEffects.Proofs.DeviceMoves
import ShaderEffects.Proofs.DrawBuffers
import ShaderEffects.Proofs.FedParameters
import ShaderEffects.Proofs.FeedbackLoops
import ShaderEffects.Proofs.FileLookups
import ShaderEffects.Proofs.FilledPrograms
import ShaderEffects.Proofs.FoundTargets
import ShaderEffects.Proofs.FrameContents
import ShaderEffects.Proofs.FrameDraws
import ShaderEffects.Proofs.FrameReference
import ShaderEffects.Proofs.FrameRuns
import ShaderEffects.Proofs.GpuRegisters
import ShaderEffects.Proofs.HandedConstants
import ShaderEffects.Proofs.HandedParameters
import ShaderEffects.Proofs.HeadlessCalls
import ShaderEffects.Proofs.HeldTextures
import ShaderEffects.Proofs.HookRuns
import ShaderEffects.Proofs.HookedPasses
import ShaderEffects.Proofs.HostRuns
import ShaderEffects.Proofs.IndependentLinks
import ShaderEffects.Proofs.IssuedHandles
import ShaderEffects.Proofs.JoinedParameters
import ShaderEffects.Proofs.JudgedDevices
import ShaderEffects.Proofs.KeptPipelines
import ShaderEffects.Proofs.KeptPrograms
import ShaderEffects.Proofs.LastWrites
import ShaderEffects.Proofs.LeafParameters
import ShaderEffects.Proofs.LinkNotices
import ShaderEffects.Proofs.LinkReports
import ShaderEffects.Proofs.LinkSteps
import ShaderEffects.Proofs.LinkedEffects
import ShaderEffects.Proofs.LoadLedgers
import ShaderEffects.Proofs.LostDevices
import ShaderEffects.Proofs.LostFrames
import ShaderEffects.Proofs.MentionedTextures
import ShaderEffects.Proofs.MirroredEffects
import ShaderEffects.Proofs.NamesInText
import ShaderEffects.Proofs.NewEffects
import ShaderEffects.Proofs.OwnedEffects
import ShaderEffects.Proofs.OwnedParameters
import ShaderEffects.Proofs.PackedTables
import ShaderEffects.Proofs.ParallelLinks
import ShaderEffects.Proofs.ParallelTechniques
import ShaderEffects.Proofs.ParameterTurns
import ShaderEffects.Proofs.ParsedDirectives
import ShaderEffects.Proofs.PassContents
import ShaderEffects.Proofs.PreludeNames
import ShaderEffects.Proofs.ProfileNames
import ShaderEffects.Proofs.ProgramShelves
import ShaderEffects.Proofs.Propagation
import ShaderEffects.Proofs.RecordImages
import ShaderEffects.Proofs.RegisterBytes
import ShaderEffects.Proofs.RegisterFiles
import ShaderEffects.Proofs.Registries
import ShaderEffects.Proofs.RendererSteps
import ShaderEffects.Proofs.RendererTurns
import ShaderEffects.Proofs.ResolvedSamplers
import ShaderEffects.Proofs.RestoredState
import ShaderEffects.Proofs.SampledRuns
import ShaderEffects.Proofs.SampledTextures
import ShaderEffects.Proofs.SamplerFiles
import ShaderEffects.Proofs.SessionAgreement
import ShaderEffects.Proofs.SettledSettings
import ShaderEffects.Proofs.ShaderLayouts
import ShaderEffects.Proofs.SuppliedTextures
import ShaderEffects.Proofs.SurfaceStrokes
import ShaderEffects.Proofs.Tables
import ShaderEffects.Proofs.TechniqueContents
import ShaderEffects.Proofs.TextureAgreement
import ShaderEffects.Proofs.TextureLimits
import ShaderEffects.Proofs.TransparentCaches
import ShaderEffects.Proofs.TrimmedText
import ShaderEffects.Proofs.TwinEngines
import ShaderEffects.Proofs.TwinHosts
import ShaderEffects.Proofs.TwinRenderers
import ShaderEffects.Proofs.TwinSessions
import ShaderEffects.Proofs.UndisturbedDevices
import ShaderEffects.Proofs.UndoneLoads
import ShaderEffects.Proofs.UniformBuffers
import ShaderEffects.Proofs.WrittenJson
import ShaderEffects.Renderer.Basic
import ShaderEffects.Renderer.Draw
import ShaderEffects.Renderer.Error
import ShaderEffects.Session
import ShaderEffects.Settings
import ShaderEffects.Table
import ShaderEffects.Text.Blank
import ShaderEffects.Text.Quoted
import ShaderEffects.Text.Shapeless
import ShaderEffects.Texture.Desc
import ShaderEffects.Texture.Format
import ShaderEffects.Texture.Registry
