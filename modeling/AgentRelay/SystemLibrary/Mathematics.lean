import AgentRelay.SystemLibrary.Table

set_option autoImplicit false

/-!
# The tables of the mathematical libraries

One has functions of a number, the other functions of several numbers at once.
-/

namespace AgentRelay.SystemLibrary

/-- The mathematical library. -/
def mathematics : LibraryTable where
  name := "libm.so.6"
  needs := ["libc.so.6", "ld-linux-x86-64.so.2"]
  versions := [
    "GLIBC_2.2.5", "GLIBC_2.4", "GLIBC_2.15", "GLIBC_2.18", "GLIBC_2.23", "GLIBC_2.24", "GLIBC_2.25",
    "GLIBC_2.26", "GLIBC_2.27", "GLIBC_2.28", "GLIBC_2.29", "GLIBC_2.31", "GLIBC_2.32", "GLIBC_2.35",
    "GLIBC_2.38", "GLIBC_2.39"]
  places := [
    "_LIB_VERSION@2 __acos_finite@4 __acosf128_finite@9 __acosf_finite@4 __acosh_finite@4 __acoshf128_finite@9",
    "__acoshf_finite@4 __acoshl_finite@4 __acosl_finite@4 __asin_finite@4 __asinf128_finite@9 __asinf_finite@4",
    "__asinl_finite@4 __atan2_finite@4 __atan2f128_finite@9 __atan2f_finite@4 __atan2l_finite@4 __atanh_finite@4",
    "__atanhf128_finite@9 __atanhf_finite@4 __atanhl_finite@4 __clog10=clog10=clog10f32x@@10=clog10f64@@10",
    "__clog10f=clog10f=clog10f32@@10 __clog10l=clog10f64x@@10=clog10l __cosh_finite@4 __coshf128_finite@9",
    "__coshf_finite@4 __coshl_finite@4 __exp10f128_finite@9 __exp10l_finite@4 __exp2f128_finite@9",
    "__exp2l_finite@4 __exp_finite@4 __expf128_finite@9 __expl_finite@4 __finite=finite __finitef128@@9",
    "__finitef=finitef __finitel=finitel __fmodf128_finite@9 __fmodl_finite@4 __fpclassify __fpclassifyf",
    "__fpclassifyf128@@9 __fpclassifyl __gamma_r_finite@4 __gammaf128_r_finite@9 __gammaf_r_finite@4",
    "__gammal_r_finite@4 __hypotf128_finite@9 __hypotl_finite@4 __iscanonicall@@8 __iseqsig@@8 __iseqsigf128@@9",
    "__iseqsigf@@8 __iseqsigl@@8 __isinff128@@9 __issignaling@@5 __issignalingf128@@9 __issignalingf@@5",
    "__issignalingl@@5 __j0_finite@4 __j0f128_finite@9 __j0f_finite@4 __j0l_finite@4 __j1_finite@4",
    "__j1f128_finite@9 __j1f_finite@4 __j1l_finite@4 __jn_finite@4 __jnf128_finite@9 __jnf_finite@4",
    "__jnl_finite@4 __lgamma_r_finite@4 __lgammaf128_r_finite@9 __lgammaf_r_finite@4 __lgammal_r_finite@4",
    "__log10_finite@4 __log10f128_finite@9 __log10f_finite@4 __log10l_finite@4 __log2f128_finite@9",
    "__log2l_finite@4 __log_finite@4 __logf128_finite@9 __logl_finite@4 __pow_finite@4 __powf128_finite@9",
    "__powl_finite@4 __remainder_finite@4 __remainderf128_finite@9 __remainderf_finite@4 __remainderl_finite@4",
    "__scalb_finite@4 __scalbf_finite@4 __scalbl_finite@4 __signbit __signbitf __signbitf128@@9 __signbitl",
    "__signgam@@6=signgam __sinh_finite@4 __sinhf128_finite@9 __sinhf_finite@4 __sinhl_finite@4 __sqrt_finite@4",
    "__sqrtf128_finite@9 __sqrtf_finite@4 __sqrtl_finite@4 __y0_finite@4 __y0f128_finite@9 __y0f_finite@4",
    "__y0l_finite@4 __y1_finite@4 __y1f128_finite@9 __y1f_finite@4 __y1l_finite@4 __yn_finite@4 __ynf128_finite@9",
    "__ynf_finite@4 __ynl_finite@4 acos=acosf32x@@10=acosf64@@10 acosf128@@9 acosf64x@@10=acosl acosf=acosf32@@10",
    "acosh=acoshf32x@@10=acoshf64@@10 acoshf128@@9 acoshf64x@@10=acoshl acoshf=acoshf32@@10",
    "asin=asinf32x@@10=asinf64@@10 asinf128@@9 asinf64x@@10=asinl asinf=asinf32@@10",
    "asinh=asinhf32x@@10=asinhf64@@10 asinhf128@@9 asinhf64x@@10=asinhl asinhf=asinhf32@@10",
    "atan2=atan2f32x@@10=atan2f64@@10 atan2f128@@9 atan2f64x@@10=atan2l atan2f=atan2f32@@10",
    "atan=atanf32x@@10=atanf64@@10 atanf128@@9 atanf64x@@10=atanl atanf=atanf32@@10",
    "atanh=atanhf32x@@10=atanhf64@@10 atanhf128@@9 atanhf64x@@10=atanhl atanhf=atanhf32@@10",
    "cabs=cabsf32x@@10=cabsf64@@10 cabsf128@@9 cabsf64x@@10=cabsl cabsf=cabsf32@@10",
    "cacos=cacosf32x@@10=cacosf64@@10 cacosf128@@9 cacosf64x@@10=cacosl cacosf=cacosf32@@10",
    "cacosh=cacoshf32x@@10=cacoshf64@@10 cacoshf128@@9 cacoshf64x@@10=cacoshl cacoshf=cacoshf32@@10",
    "canonicalize@@8=canonicalizef32x@@10=canonicalizef64@@10 canonicalizef128@@9",
    "canonicalizef64x@@10=canonicalizel@@8 canonicalizef@@8=canonicalizef32@@10 carg=cargf32x@@10=cargf64@@10",
    "cargf128@@9 cargf64x@@10=cargl cargf=cargf32@@10 casin=casinf32x@@10=casinf64@@10 casinf128@@9",
    "casinf64x@@10=casinl casinf=casinf32@@10 casinh=casinhf32x@@10=casinhf64@@10 casinhf128@@9",
    "casinhf64x@@10=casinhl casinhf=casinhf32@@10 catan=catanf32x@@10=catanf64@@10 catanf128@@9",
    "catanf64x@@10=catanl catanf=catanf32@@10 catanh=catanhf32x@@10=catanhf64@@10 catanhf128@@9",
    "catanhf64x@@10=catanhl catanhf=catanhf32@@10 cbrt=cbrtf32x@@10=cbrtf64@@10 cbrtf128@@9 cbrtf64x@@10=cbrtl",
    "cbrtf=cbrtf32@@10 ccos=ccosf32x@@10=ccosf64@@10 ccosf128@@9 ccosf64x@@10=ccosl ccosf=ccosf32@@10",
    "ccosh=ccoshf32x@@10=ccoshf64@@10 ccoshf128@@9 ccoshf64x@@10=ccoshl ccoshf=ccoshf32@@10",
    "ceil=ceilf32x@@10=ceilf64@@10 ceilf128@@9 ceilf64x@@10=ceill ceilf=ceilf32@@10 cexp=cexpf32x@@10=cexpf64@@10",
    "cexpf128@@9 cexpf64x@@10=cexpl cexpf=cexpf32@@10 cimag=cimagf32x@@10=cimagf64@@10 cimagf128@@9",
    "cimagf64x@@10=cimagl cimagf=cimagf32@@10 clog10f128@@9 clog=clogf32x@@10=clogf64@@10 clogf128@@9",
    "clogf64x@@10=clogl clogf=clogf32@@10 conj=conjf32x@@10=conjf64@@10 conjf128@@9 conjf64x@@10=conjl",
    "conjf=conjf32@@10 copysign=copysignf32x@@10=copysignf64@@10 copysignf128@@9 copysignf64x@@10=copysignl",
    "copysignf=copysignf32@@10 cos=cosf32x@@10=cosf64@@10 cosf128@@9 cosf64x@@10=cosl cosf=cosf32@@10",
    "cosh=coshf32x@@10=coshf64@@10 coshf128@@9 coshf64x@@10=coshl coshf=coshf32@@10 cpow=cpowf32x@@10=cpowf64@@10",
    "cpowf128@@9 cpowf64x@@10=cpowl cpowf=cpowf32@@10 cproj=cprojf32x@@10=cprojf64@@10 cprojf128@@9",
    "cprojf64x@@10=cprojl cprojf=cprojf32@@10 creal=crealf32x@@10=crealf64@@10 crealf128@@9 crealf64x@@10=creall",
    "crealf=crealf32@@10 csin=csinf32x@@10=csinf64@@10 csinf128@@9 csinf64x@@10=csinl csinf=csinf32@@10",
    "csinh=csinhf32x@@10=csinhf64@@10 csinhf128@@9 csinhf64x@@10=csinhl csinhf=csinhf32@@10",
    "csqrt=csqrtf32x@@10=csqrtf64@@10 csqrtf128@@9 csqrtf64x@@10=csqrtl csqrtf=csqrtf32@@10",
    "ctan=ctanf32x@@10=ctanf64@@10 ctanf128@@9 ctanf64x@@10=ctanl ctanf=ctanf32@@10",
    "ctanh=ctanhf32x@@10=ctanhf64@@10 ctanhf128@@9 ctanhf64x@@10=ctanhl ctanhf=ctanhf32@@10",
    "daddl@@11=f32xaddf64x@@11=f64addf64x@@11 ddivl@@11=f32xdivf64x@@11=f64divf64x@@11",
    "dfmal@@15=f32xfmaf64x@@15=f64fmaf64x@@15 dmull@@11=f32xmulf64x@@11=f64mulf64x@@11",
    "drem=remainder=remainderf32x@@10=remainderf64@@10 dremf=remainderf=remainderf32@@10",
    "dreml=remainderf64x@@10=remainderl dsqrtl@@15=f32xsqrtf64x@@15=f64sqrtf64x@@15",
    "dsubl@@11=f32xsubf64x@@11=f64subf64x@@11 erf=erff32x@@10=erff64@@10 erfc=erfcf32x@@10=erfcf64@@10",
    "erfcf128@@9 erfcf64x@@10=erfcl erfcf=erfcf32@@10 erff128@@9 erff64x@@10=erfl erff=erff32@@10 exp10@2=pow10@2",
    "exp10@@17=exp10f32x@@10=exp10f64@@10=__exp10_finite@4 exp10f128@@9 exp10f64x@@10=exp10l=pow10l@2",
    "exp10f@2=pow10f@2 exp10f@@14=exp10f32@@10=__exp10f_finite@4 exp2@2",
    "exp2@@12=exp2f32x@@10=exp2f64@@10=__exp2_finite@4 exp2f128@@9 exp2f64x@@10=exp2l exp2f@2",
    "exp2f@@10=exp2f32@@10=__exp2f_finite@4 exp@2 exp@@12=expf32x@@10=expf64@@10 expf128@@9 expf64x@@10=expl",
    "expf@2 expf@@10=expf32@@10=__expf_finite@4 expm1=expm1f32x@@10=expm1f64@@10 expm1f128@@9",
    "expm1f64x@@10=expm1l expm1f=expm1f32@@10 f32addf128@@11 f32addf32x@@11=f32addf64@@11=fadd@@11",
    "f32addf64x@@11=faddl@@11 f32divf128@@11 f32divf32x@@11=f32divf64@@11=fdiv@@11 f32divf64x@@11=fdivl@@11",
    "f32fmaf128@@15 f32fmaf32x@@15=f32fmaf64@@15=ffma@@15 f32fmaf64x@@15=ffmal@@15 f32mulf128@@11",
    "f32mulf32x@@11=f32mulf64@@11=fmul@@11 f32mulf64x@@11=fmull@@11 f32sqrtf128@@15",
    "f32sqrtf32x@@15=f32sqrtf64@@15=fsqrt@@15 f32sqrtf64x@@15=fsqrtl@@15 f32subf128@@11",
    "f32subf32x@@11=f32subf64@@11=fsub@@11 f32subf64x@@11=fsubl@@11 f32xaddf128@@11=f64addf128@@11 f32xaddf64@@11",
    "f32xdivf128@@11=f64divf128@@11 f32xdivf64@@11 f32xfmaf128@@15=f64fmaf128@@15",
    "f32xfmaf64@@15=fma=fmaf32x@@10=fmaf64@@10 f32xmulf128@@11=f64mulf128@@11 f32xmulf64@@11",
    "f32xsqrtf128@@15=f64sqrtf128@@15 f32xsqrtf64@@15=sqrt=sqrtf32x@@10=sqrtf64@@10",
    "f32xsubf128@@11=f64subf128@@11 f32xsubf64@@11 f64xaddf128@@11 f64xdivf128@@11 f64xfmaf128@@15",
    "f64xmulf128@@11 f64xsqrtf128@@15 f64xsubf128@@11 fabs=fabsf32x@@10=fabsf64@@10 fabsf128@@9",
    "fabsf64x@@10=fabsl fabsf=fabsf32@@10 fdim=fdimf32x@@10=fdimf64@@10 fdimf128@@9 fdimf64x@@10=fdiml",
    "fdimf=fdimf32@@10 feclearexcept fedisableexcept feenableexcept fegetenv fegetexcept fegetexceptflag",
    "fegetmode@@8 fegetround feholdexcept feraiseexcept fesetenv fesetexcept@@8 fesetexceptflag fesetmode@@8",
    "fesetround fetestexcept fetestexceptflag@@8 feupdateenv floor=floorf32x@@10=floorf64@@10 floorf128@@9",
    "floorf64x@@10=floorl floorf=floorf32@@10 fmaf128@@9 fmaf64x@@10=fmal fmaf=fmaf32@@10",
    "fmax=fmaxf32x@@10=fmaxf64@@10 fmaxf128@@9 fmaxf64x@@10=fmaxl fmaxf=fmaxf32@@10",
    "fmaximum@@15=fmaximumf32x@@15=fmaximumf64@@15 fmaximum_mag@@15=fmaximum_magf32x@@15=fmaximum_magf64@@15",
    "fmaximum_mag_num@@15=fmaximum_mag_numf32x@@15=fmaximum_mag_numf64@@15 fmaximum_mag_numf128@@15",
    "fmaximum_mag_numf64x@@15=fmaximum_mag_numl@@15 fmaximum_mag_numf@@15=fmaximum_mag_numf32@@15",
    "fmaximum_magf128@@15 fmaximum_magf64x@@15=fmaximum_magl@@15 fmaximum_magf@@15=fmaximum_magf32@@15",
    "fmaximum_num@@15=fmaximum_numf32x@@15=fmaximum_numf64@@15 fmaximum_numf128@@15",
    "fmaximum_numf64x@@15=fmaximum_numl@@15 fmaximum_numf@@15=fmaximum_numf32@@15 fmaximumf128@@15",
    "fmaximumf64x@@15=fmaximuml@@15 fmaximumf@@15=fmaximumf32@@15 fmaxmag@@8=fmaxmagf32x@@10=fmaxmagf64@@10",
    "fmaxmagf128@@9 fmaxmagf64x@@10=fmaxmagl@@8 fmaxmagf@@8=fmaxmagf32@@10 fmin=fminf32x@@10=fminf64@@10",
    "fminf128@@9 fminf64x@@10=fminl fminf=fminf32@@10 fminimum@@15=fminimumf32x@@15=fminimumf64@@15",
    "fminimum_mag@@15=fminimum_magf32x@@15=fminimum_magf64@@15",
    "fminimum_mag_num@@15=fminimum_mag_numf32x@@15=fminimum_mag_numf64@@15 fminimum_mag_numf128@@15",
    "fminimum_mag_numf64x@@15=fminimum_mag_numl@@15 fminimum_mag_numf@@15=fminimum_mag_numf32@@15",
    "fminimum_magf128@@15 fminimum_magf64x@@15=fminimum_magl@@15 fminimum_magf@@15=fminimum_magf32@@15",
    "fminimum_num@@15=fminimum_numf32x@@15=fminimum_numf64@@15 fminimum_numf128@@15",
    "fminimum_numf64x@@15=fminimum_numl@@15 fminimum_numf@@15=fminimum_numf32@@15 fminimumf128@@15",
    "fminimumf64x@@15=fminimuml@@15 fminimumf@@15=fminimumf32@@15 fminmag@@8=fminmagf32x@@10=fminmagf64@@10",
    "fminmagf128@@9 fminmagf64x@@10=fminmagl@@8 fminmagf@@8=fminmagf32@@10 fmod@2",
    "fmod@@16=fmodf32x@@10=fmodf64@@10=__fmod_finite@4 fmodf128@@9 fmodf64x@@10=fmodl fmodf@2",
    "fmodf@@16=fmodf32@@10=__fmodf_finite@4 frexp=frexpf32x@@10=frexpf64@@10 frexpf128@@9 frexpf64x@@10=frexpl",
    "frexpf=frexpf32@@10 fromfp@@8=fromfpf32x@@10=fromfpf64@@10 fromfpf128@@9 fromfpf64x@@10=fromfpl@@8",
    "fromfpf@@8=fromfpf32@@10 fromfpx@@8=fromfpxf32x@@10=fromfpxf64@@10 fromfpxf128@@9",
    "fromfpxf64x@@10=fromfpxl@@8 fromfpxf@@8=fromfpxf32@@10 gamma=lgamma@2 gammaf=lgammaf@2 gammal=lgammal@2",
    "getpayload@@8=getpayloadf32x@@10=getpayloadf64@@10 getpayloadf128@@9 getpayloadf64x@@10=getpayloadl@@8",
    "getpayloadf@@8=getpayloadf32@@10 hypot@2 hypot@@15=hypotf32x@@10=hypotf64@@10=__hypot_finite@4 hypotf128@@9",
    "hypotf64x@@10=hypotl hypotf@2 hypotf@@15=hypotf32@@10=__hypotf_finite@4 ilogb=ilogbf32x@@10=ilogbf64@@10",
    "ilogbf128@@9 ilogbf64x@@10=ilogbl ilogbf=ilogbf32@@10 j0=j0f32x@@10=j0f64@@10 j0f128@@9 j0f64x@@10=j0l",
    "j0f=j0f32@@10 j1=j1f32x@@10=j1f64@@10 j1f128@@9 j1f64x@@10=j1l j1f=j1f32@@10 jn=jnf32x@@10=jnf64@@10",
    "jnf128@@9 jnf64x@@10=jnl jnf=jnf32@@10 ldexp=ldexpf32x@@10=ldexpf64@@10=scalbn=scalbnf32x@@10=scalbnf64@@10",
    "ldexpf128@@9=scalbnf128@@9 ldexpf64x@@10=ldexpl=scalbnf64x@@10=scalbnl",
    "ldexpf=ldexpf32@@10=scalbnf=scalbnf32@@10 lgamma@@6=lgammaf32x@@10=lgammaf64@@10",
    "lgamma_r=lgammaf32x_r@@10=lgammaf64_r@@10 lgammaf128@@9 lgammaf128_r@@9 lgammaf32_r@@10=lgammaf_r",
    "lgammaf64x@@10=lgammal@@6 lgammaf64x_r@@10=lgammal_r lgammaf@@6=lgammaf32@@10",
    "llogb@@8=llogbf32x@@10=llogbf64@@10 llogbf128@@9 llogbf64x@@10=llogbl@@8 llogbf@@8=llogbf32@@10",
    "llrint=llrintf32x@@10=llrintf64@@10=lrint=lrintf32x@@10=lrintf64@@10 llrintf128@@9",
    "llrintf64x@@10=llrintl=lrintf64x@@10=lrintl llrintf=llrintf32@@10=lrintf=lrintf32@@10",
    "llround=llroundf32x@@10=llroundf64@@10=lround=lroundf32x@@10=lroundf64@@10 llroundf128@@9",
    "llroundf64x@@10=llroundl llroundf=llroundf32@@10 log10=log10f32x@@10=log10f64@@10 log10f128@@9",
    "log10f64x@@10=log10l log10f=log10f32@@10 log1p=log1pf32x@@10=log1pf64@@10 log1pf128@@9 log1pf64x@@10=log1pl",
    "log1pf=log1pf32@@10 log2@2 log2@@12=log2f32x@@10=log2f64@@10=__log2_finite@4 log2f128@@9 log2f64x@@10=log2l",
    "log2f@2 log2f@@10=log2f32@@10=__log2f_finite@4 log@2 log@@12=logf32x@@10=logf64@@10",
    "logb=logbf32x@@10=logbf64@@10 logbf128@@9 logbf64x@@10=logbl logbf=logbf32@@10 logf128@@9 logf64x@@10=logl",
    "logf@2 logf@@10=logf32@@10=__logf_finite@4 lrintf128@@9 lroundf128@@9 lroundf64x@@10=lroundl",
    "lroundf=lroundf32@@10 matherr@2 modf=modff32x@@10=modff64@@10 modff128@@9 modff64x@@10=modfl",
    "modff=modff32@@10 nan=nanf32x@@10=nanf64@@10 nanf128@@9 nanf64x@@10=nanl nanf=nanf32@@10",
    "nearbyint=nearbyintf32x@@10=nearbyintf64@@10 nearbyintf128@@9 nearbyintf64x@@10=nearbyintl",
    "nearbyintf=nearbyintf32@@10 nextafter=nextafterf32x@@10=nextafterf64@@10 nextafterf128@@9",
    "nextafterf64x@@10=nextafterl=nexttowardl nextafterf=nextafterf32@@10",
    "nextdown@@7=nextdownf32x@@10=nextdownf64@@10 nextdownf128@@9 nextdownf64x@@10=nextdownl@@7",
    "nextdownf@@7=nextdownf32@@10 nexttoward nexttowardf nextup@@7=nextupf32x@@10=nextupf64@@10 nextupf128@@9",
    "nextupf64x@@10=nextupl@@7 nextupf@@7=nextupf32@@10 pow@2 pow@@12=powf32x@@10=powf64@@10 powf128@@9",
    "powf64x@@10=powl powf@2 powf@@10=powf32@@10=__powf_finite@4 remainderf128@@9",
    "remquo=remquof32x@@10=remquof64@@10 remquof128@@9 remquof64x@@10=remquol remquof=remquof32@@10",
    "rint=rintf32x@@10=rintf64@@10 rintf128@@9 rintf64x@@10=rintl rintf=rintf32@@10",
    "round=roundf32x@@10=roundf64@@10 roundeven@@8=roundevenf32x@@10=roundevenf64@@10 roundevenf128@@9",
    "roundevenf64x@@10=roundevenl@@8 roundevenf@@8=roundevenf32@@10 roundf128@@9 roundf64x@@10=roundl",
    "roundf=roundf32@@10 scalb scalbf scalbl scalbln=scalblnf32x@@10=scalblnf64@@10 scalblnf128@@9",
    "scalblnf64x@@10=scalblnl scalblnf=scalblnf32@@10 setpayload@@8=setpayloadf32x@@10=setpayloadf64@@10",
    "setpayloadf128@@9 setpayloadf64x@@10=setpayloadl@@8 setpayloadf@@8=setpayloadf32@@10",
    "setpayloadsig@@8=setpayloadsigf32x@@10=setpayloadsigf64@@10 setpayloadsigf128@@9",
    "setpayloadsigf64x@@10=setpayloadsigl@@8 setpayloadsigf@@8=setpayloadsigf32@@10 significand significandf",
    "significandl sin=sinf32x@@10=sinf64@@10 sincos=sincosf32x@@10=sincosf64@@10 sincosf128@@9",
    "sincosf64x@@10=sincosl sincosf=sincosf32@@10 sinf128@@9 sinf64x@@10=sinl sinf=sinf32@@10",
    "sinh=sinhf32x@@10=sinhf64@@10 sinhf128@@9 sinhf64x@@10=sinhl sinhf=sinhf32@@10 sqrtf128@@9",
    "sqrtf64x@@10=sqrtl sqrtf=sqrtf32@@10 tan=tanf32x@@10=tanf64@@10 tanf128@@9 tanf64x@@10=tanl tanf=tanf32@@10",
    "tanh=tanhf32x@@10=tanhf64@@10 tanhf128@@9 tanhf64x@@10=tanhl tanhf=tanhf32@@10",
    "tgamma=tgammaf32x@@10=tgammaf64@@10 tgammaf128@@9 tgammaf64x@@10=tgammal tgammaf=tgammaf32@@10",
    "totalorder@8=totalorderf32x@10=totalorderf64@10 totalorder@@13=totalorderf32x@@13=totalorderf64@@13",
    "totalorderf128@9 totalorderf128@@13 totalorderf64x@10=totalorderl@8 totalorderf64x@@13=totalorderl@@13",
    "totalorderf@8=totalorderf32@10 totalorderf@@13=totalorderf32@@13",
    "totalordermag@8=totalordermagf32x@10=totalordermagf64@10",
    "totalordermag@@13=totalordermagf32x@@13=totalordermagf64@@13 totalordermagf128@9 totalordermagf128@@13",
    "totalordermagf64x@10=totalordermagl@8 totalordermagf64x@@13=totalordermagl@@13",
    "totalordermagf@8=totalordermagf32@10 totalordermagf@@13=totalordermagf32@@13",
    "trunc=truncf32x@@10=truncf64@@10 truncf128@@9 truncf64x@@10=truncl truncf=truncf32@@10",
    "ufromfp@@8=ufromfpf32x@@10=ufromfpf64@@10 ufromfpf128@@9 ufromfpf64x@@10=ufromfpl@@8",
    "ufromfpf@@8=ufromfpf32@@10 ufromfpx@@8=ufromfpxf32x@@10=ufromfpxf64@@10 ufromfpxf128@@9",
    "ufromfpxf64x@@10=ufromfpxl@@8 ufromfpxf@@8=ufromfpxf32@@10 y0=y0f32x@@10=y0f64@@10 y0f128@@9 y0f64x@@10=y0l",
    "y0f=y0f32@@10 y1=y1f32x@@10=y1f64@@10 y1f128@@9 y1f64x@@10=y1l y1f=y1f32@@10 yn=ynf32x@@10=ynf64@@10",
    "ynf128@@9 ynf64x@@10=ynl ynf=ynf32@@10"]

/-- The mathematical library for vectors. -/
def vectorMathematics : LibraryTable where
  name := "libmvec.so.1"
  needs := ["libm.so.6", "ld-linux-x86-64.so.2", "libc.so.6"]
  versions := ["GLIBC_2.22", "GLIBC_2.35"]
  places := [
    "_ZGVbN2v_acos@@3 _ZGVbN2v_acosh@@3 _ZGVbN2v_asin@@3 _ZGVbN2v_asinh@@3 _ZGVbN2v_atan@@3 _ZGVbN2v_atanh@@3",
    "_ZGVbN2v_cbrt@@3 _ZGVbN2v_cos _ZGVbN2v_cosh@@3 _ZGVbN2v_erf@@3 _ZGVbN2v_erfc@@3 _ZGVbN2v_exp",
    "_ZGVbN2v_exp10@@3 _ZGVbN2v_exp2@@3 _ZGVbN2v_expm1@@3 _ZGVbN2v_log _ZGVbN2v_log10@@3 _ZGVbN2v_log1p@@3",
    "_ZGVbN2v_log2@@3 _ZGVbN2v_sin _ZGVbN2v_sinh@@3 _ZGVbN2v_tan@@3 _ZGVbN2v_tanh@@3 _ZGVbN2vv_atan2@@3",
    "_ZGVbN2vv_hypot@@3 _ZGVbN2vv_pow _ZGVbN2vvv_sincos _ZGVbN4v_acosf@@3 _ZGVbN4v_acoshf@@3 _ZGVbN4v_asinf@@3",
    "_ZGVbN4v_asinhf@@3 _ZGVbN4v_atanf@@3 _ZGVbN4v_atanhf@@3 _ZGVbN4v_cbrtf@@3 _ZGVbN4v_cosf _ZGVbN4v_coshf@@3",
    "_ZGVbN4v_erfcf@@3 _ZGVbN4v_erff@@3 _ZGVbN4v_exp10f@@3 _ZGVbN4v_exp2f@@3 _ZGVbN4v_expf _ZGVbN4v_expm1f@@3",
    "_ZGVbN4v_log10f@@3 _ZGVbN4v_log1pf@@3 _ZGVbN4v_log2f@@3 _ZGVbN4v_logf _ZGVbN4v_sinf _ZGVbN4v_sinhf@@3",
    "_ZGVbN4v_tanf@@3 _ZGVbN4v_tanhf@@3 _ZGVbN4vv_atan2f@@3 _ZGVbN4vv_hypotf@@3 _ZGVbN4vv_powf _ZGVbN4vvv_sincosf",
    "_ZGVcN4v_acos@@3 _ZGVcN4v_acosh@@3 _ZGVcN4v_asin@@3 _ZGVcN4v_asinh@@3 _ZGVcN4v_atan@@3 _ZGVcN4v_atanh@@3",
    "_ZGVcN4v_cbrt@@3 _ZGVcN4v_cos _ZGVcN4v_cosh@@3 _ZGVcN4v_erf@@3 _ZGVcN4v_erfc@@3 _ZGVcN4v_exp",
    "_ZGVcN4v_exp10@@3 _ZGVcN4v_exp2@@3 _ZGVcN4v_expm1@@3 _ZGVcN4v_log _ZGVcN4v_log10@@3 _ZGVcN4v_log1p@@3",
    "_ZGVcN4v_log2@@3 _ZGVcN4v_sin _ZGVcN4v_sinh@@3 _ZGVcN4v_tan@@3 _ZGVcN4v_tanh@@3 _ZGVcN4vv_atan2@@3",
    "_ZGVcN4vv_hypot@@3 _ZGVcN4vv_pow _ZGVcN4vvv_sincos _ZGVcN8v_acosf@@3 _ZGVcN8v_acoshf@@3 _ZGVcN8v_asinf@@3",
    "_ZGVcN8v_asinhf@@3 _ZGVcN8v_atanf@@3 _ZGVcN8v_atanhf@@3 _ZGVcN8v_cbrtf@@3 _ZGVcN8v_cosf _ZGVcN8v_coshf@@3",
    "_ZGVcN8v_erfcf@@3 _ZGVcN8v_erff@@3 _ZGVcN8v_exp10f@@3 _ZGVcN8v_exp2f@@3 _ZGVcN8v_expf _ZGVcN8v_expm1f@@3",
    "_ZGVcN8v_log10f@@3 _ZGVcN8v_log1pf@@3 _ZGVcN8v_log2f@@3 _ZGVcN8v_logf _ZGVcN8v_sinf _ZGVcN8v_sinhf@@3",
    "_ZGVcN8v_tanf@@3 _ZGVcN8v_tanhf@@3 _ZGVcN8vv_atan2f@@3 _ZGVcN8vv_hypotf@@3 _ZGVcN8vv_powf _ZGVcN8vvv_sincosf",
    "_ZGVdN4v_acos@@3 _ZGVdN4v_acosh@@3 _ZGVdN4v_asin@@3 _ZGVdN4v_asinh@@3 _ZGVdN4v_atan@@3 _ZGVdN4v_atanh@@3",
    "_ZGVdN4v_cbrt@@3 _ZGVdN4v_cos _ZGVdN4v_cosh@@3 _ZGVdN4v_erf@@3 _ZGVdN4v_erfc@@3 _ZGVdN4v_exp",
    "_ZGVdN4v_exp10@@3 _ZGVdN4v_exp2@@3 _ZGVdN4v_expm1@@3 _ZGVdN4v_log _ZGVdN4v_log10@@3 _ZGVdN4v_log1p@@3",
    "_ZGVdN4v_log2@@3 _ZGVdN4v_sin _ZGVdN4v_sinh@@3 _ZGVdN4v_tan@@3 _ZGVdN4v_tanh@@3 _ZGVdN4vv_atan2@@3",
    "_ZGVdN4vv_hypot@@3 _ZGVdN4vv_pow _ZGVdN4vvv_sincos _ZGVdN8v_acosf@@3 _ZGVdN8v_acoshf@@3 _ZGVdN8v_asinf@@3",
    "_ZGVdN8v_asinhf@@3 _ZGVdN8v_atanf@@3 _ZGVdN8v_atanhf@@3 _ZGVdN8v_cbrtf@@3 _ZGVdN8v_cosf _ZGVdN8v_coshf@@3",
    "_ZGVdN8v_erfcf@@3 _ZGVdN8v_erff@@3 _ZGVdN8v_exp10f@@3 _ZGVdN8v_exp2f@@3 _ZGVdN8v_expf _ZGVdN8v_expm1f@@3",
    "_ZGVdN8v_log10f@@3 _ZGVdN8v_log1pf@@3 _ZGVdN8v_log2f@@3 _ZGVdN8v_logf _ZGVdN8v_sinf _ZGVdN8v_sinhf@@3",
    "_ZGVdN8v_tanf@@3 _ZGVdN8v_tanhf@@3 _ZGVdN8vv_atan2f@@3 _ZGVdN8vv_hypotf@@3 _ZGVdN8vv_powf _ZGVdN8vvv_sincosf",
    "_ZGVeN16v_acosf@@3 _ZGVeN16v_acoshf@@3 _ZGVeN16v_asinf@@3 _ZGVeN16v_asinhf@@3 _ZGVeN16v_atanf@@3",
    "_ZGVeN16v_atanhf@@3 _ZGVeN16v_cbrtf@@3 _ZGVeN16v_cosf _ZGVeN16v_coshf@@3 _ZGVeN16v_erfcf@@3",
    "_ZGVeN16v_erff@@3 _ZGVeN16v_exp10f@@3 _ZGVeN16v_exp2f@@3 _ZGVeN16v_expf _ZGVeN16v_expm1f@@3",
    "_ZGVeN16v_log10f@@3 _ZGVeN16v_log1pf@@3 _ZGVeN16v_log2f@@3 _ZGVeN16v_logf _ZGVeN16v_sinf _ZGVeN16v_sinhf@@3",
    "_ZGVeN16v_tanf@@3 _ZGVeN16v_tanhf@@3 _ZGVeN16vv_atan2f@@3 _ZGVeN16vv_hypotf@@3 _ZGVeN16vv_powf",
    "_ZGVeN16vvv_sincosf _ZGVeN8v_acos@@3 _ZGVeN8v_acosh@@3 _ZGVeN8v_asin@@3 _ZGVeN8v_asinh@@3 _ZGVeN8v_atan@@3",
    "_ZGVeN8v_atanh@@3 _ZGVeN8v_cbrt@@3 _ZGVeN8v_cos _ZGVeN8v_cosh@@3 _ZGVeN8v_erf@@3 _ZGVeN8v_erfc@@3",
    "_ZGVeN8v_exp _ZGVeN8v_exp10@@3 _ZGVeN8v_exp2@@3 _ZGVeN8v_expm1@@3 _ZGVeN8v_log _ZGVeN8v_log10@@3",
    "_ZGVeN8v_log1p@@3 _ZGVeN8v_log2@@3 _ZGVeN8v_sin _ZGVeN8v_sinh@@3 _ZGVeN8v_tan@@3 _ZGVeN8v_tanh@@3",
    "_ZGVeN8vv_atan2@@3 _ZGVeN8vv_hypot@@3 _ZGVeN8vv_pow _ZGVeN8vvv_sincos"]

end AgentRelay.SystemLibrary
